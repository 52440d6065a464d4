import Modbus.Proofs.Frame.Accepted
import Modbus.Proofs.Framing.Mbap

namespace Modbus

open Line

namespace Line

variable {line rest : Line}

theorem Brings.steady {xs : Octets} (h : line.Brings xs rest) (hline : line.Steady) :
    rest.Steady := by
  induction h with
  | nothing => exact hline
  | silence _ ih => exact ih (steady_silence.1 hline)
  | whole _ _ ih => exact ih (steady_data.1 hline).2
  | part _ hback => exact steady_data.2 ⟨hback, (steady_data.1 hline).2⟩

/-- A steady line ends only behind its last arrival. -/
theorem Ends.of_steady (h : line.Ends rest) (hline : line.Steady) : line = [] ∧ rest = [] := by
  cases h with
  | done => exact ⟨rfl, rfl⟩
  | empty => exact absurd rfl (steady_data.1 hline).1

theorem Breaks.not_steady {stop : Stop} (h : line.Breaks stop rest) : ¬ line.Steady := by
  intro hline
  cases h <;> exact hline _ List.mem_cons_self

end Line

namespace Mbap

/-- What the octets of a stream hold: frames one behind the other, why there is no further one unless
the stream ended behind the last, and the number of octets used up. -/
structure Parsed where
  frames : List Octets
  fault : Option ServerError
  consumed : Nat

def parse (octets : Octets) : Parsed :=
  let length := ofBigEndian ((octets.drop 4).take 2)
  if octets = [] then ⟨[], none, 0⟩
  else if octets.length < 7 then ⟨[], some .earlyEof, octets.length⟩
  else if length < 2 ∨ 254 < length then
    ⟨[], some (.malformedFrame (.announcedLength length 2 254)), 7⟩
  else if octets.length < 6 + length then ⟨[], some .earlyEof, octets.length⟩
  else
    let next := parse (octets.drop (6 + length))
    ⟨octets.take (6 + length) :: next.frames, next.fault, 6 + length + next.consumed⟩
termination_by octets.length
decreasing_by
  rw [List.length_drop]
  omega

structure Harvest where
  frames : List Octets
  stop : Option Stop
  rest : Line

def readAll (line : Line) : Harvest :=
  match _h : readFrame line with
  | (.ok none, rest) => ⟨[], none, rest⟩
  | (.error stop, rest) => ⟨[], some stop, rest⟩
  | (.ok (some raw), rest) =>
    let next := readAll rest
    { next with frames := raw :: next.frames }
termination_by line.weight
decreasing_by exact weight_readFrame_lt _h

/-! ### The parser -/

/-- The header and the parser take the length from the same two octets. -/
theorem announcedLength_take {octets : Octets} (h : headerLength ≤ octets.length) :
    announcedLength (octets.take headerLength) = ofBigEndian ((octets.drop 4).take 2) := by
  match octets with
  | _ :: _ :: _ :: _ :: high :: low :: _ :: _ => exact (ofBigEndian_pair high low).symm
  | [] | [_] | [_, _] | [_, _, _] | [_, _, _, _] | [_, _, _, _, _] | [_, _, _, _, _, _] =>
    simp [headerLength] at h

theorem parse_nil : parse [] = ⟨[], none, 0⟩ := by
  rw [parse, if_pos rfl]

/-- Less than a frame is used up. -/
theorem parse_partial {raw : Octets} (hne : raw ≠ []) (hpartial : IsPartial raw) :
    parse raw = ⟨[], some .earlyEof, raw.length⟩ := by
  rw [parse, if_neg hne]
  by_cases hshort : raw.length < 7
  · rw [if_pos hshort]
  · have hlength := announcedLength_take (Nat.le_of_not_lt hshort)
    have hcut := hpartial.resolve_left hshort
    rw [InRange, hlength] at hcut
    simp only [smallestLength, largestLength] at hcut
    rw [if_neg hshort, if_neg (by omega), if_pos hcut.2]

theorem parse_refused {header : Octets} (hheader : header.length = headerLength)
    (houtside : ¬ InRange header) (more : Octets) :
    parse (header ++ more) = ⟨[], some (.malformedFrame
      (.announcedLength (announcedLength header) smallestLength largestLength)), headerLength⟩ := by
  have hlong : headerLength ≤ (header ++ more).length := by
    rw [List.length_append, hheader]
    exact Nat.le_add_right _ _
  have hlength := announcedLength_take hlong
  rw [take_header hheader] at hlength
  rw [InRange, ← hheader, List.take_length, hlength] at houtside
  simp only [headerLength, smallestLength, largestLength] at hlong houtside ⊢
  rw [parse, if_neg (List.length_pos_iff.1 (by omega)), if_neg (by omega), if_pos (by omega),
    hlength]

/-- A whole frame is the first one, whatever follows it. -/
theorem parse_whole {raw : Octets} (hwhole : IsWhole raw) (more : Octets) :
    parse (raw ++ more) =
      ⟨raw :: (parse more).frames, (parse more).fault, raw.length + (parse more).consumed⟩ := by
  have hlong : headerLength ≤ (raw ++ more).length := by
    rw [List.length_append]
    exact Nat.le_add_right_of_le hwhole.header
  have hlength := announcedLength_take hlong
  rw [List.take_append_of_le_length hwhole.header] at hlength
  have hraw := hwhole.length
  have hrange := hwhole.inRange
  rw [InRange, hlength] at hrange
  rw [hlength] at hraw
  simp only [headerLength, smallestLength, largestLength] at hlong hrange
  have hall : raw.length ≤ (raw ++ more).length := by
    rw [List.length_append]
    exact Nat.le_add_right _ _
  rw [parse, if_neg (List.length_pos_iff.1 (by omega)), if_neg (by omega), if_neg (by omega),
    if_neg (by omega), ← hraw, List.take_left, List.drop_left]

/-! ### Reading -/

/-- A frame on a steady line is read whole, and what follows it is steady again. -/
theorem readFrame_steady_ok {line rest : Line} {found : Option Octets} (hline : line.Steady)
    (h : readFrame line = (.ok found, rest)) :
    rest.Steady ∧ ((∃ raw, found = some raw ∧ IsWhole raw ∧ line.octets = raw ++ rest.octets) ∨
      found = none ∧ line.octets = [] ∧ rest = []) := by
  obtain ⟨raw, hraw, hwhole, hbrings⟩ | ⟨hnone, behind, hbrings, hends⟩ := readFrame_ok h
  · exact ⟨hbrings.steady hline, .inl ⟨raw, hraw, hwhole, hbrings.octets⟩⟩
  · obtain ⟨rfl, rfl⟩ := hends.of_steady (hbrings.steady hline)
    exact ⟨hbrings.steady hline, .inr ⟨hnone, hbrings.octets, rfl⟩⟩

/-- Where no frame is read off a steady line, the parser finds none in what was taken off it. -/
theorem readFrame_steady_error {line rest : Line} {stop : Stop} (hline : line.Steady)
    (h : readFrame line = (.error stop, rest)) :
    ∃ raw e, stop = .failed e ∧ line.octets = raw ++ rest.octets ∧
      parse line.octets = ⟨[], some e, raw.length⟩ := by
  obtain ⟨raw, behind, hbrings, hfails⟩ := readFrame_error h
  have hbehind := hbrings.steady hline
  have hoctets := hbrings.octets
  cases hfails with
  | cut hne hpartial hends =>
    obtain ⟨rfl, rfl⟩ := hends.of_steady hbehind
    refine ⟨raw, _, rfl, hoctets, ?_⟩
    rw [hoctets, Line.octets, List.flatMap_nil, List.append_nil]
    exact parse_partial hne hpartial
  | broken hpartial hbreaks => exact absurd hbehind hbreaks.not_steady
  | refused hheader houtside =>
    refine ⟨raw, _, rfl, hoctets, ?_⟩
    rw [hoctets, parse_refused hheader houtside, hheader]

structure Agrees (octets : Octets) (found : Harvest) : Prop where
  frames : found.frames = (parse octets).frames
  stop : found.stop = (parse octets).fault.map .failed
  consumed : ∃ used, octets = used ++ found.rest.octets ∧ used.length = (parse octets).consumed

theorem Agrees.next {raw more : Octets} {found : Harvest} (hwhole : IsWhole raw)
    (h : Agrees more found) :
    Agrees (raw ++ more) { found with frames := raw :: found.frames } := by
  have hparse := parse_whole hwhole more
  obtain ⟨used, hmore, hused⟩ := h.consumed
  constructor
  · rw [hparse, h.frames]
  · rw [hparse]
    exact h.stop
  · rw [hparse]
    refine ⟨raw ++ used, ?_, ?_⟩
    · rw [List.append_assoc, ← hmore]
    · rw [List.length_append, hused]

theorem agrees_readAll {line : Line} (hline : line.Steady) : Agrees line.octets (readAll line) := by
  fun_induction readAll line with
  | case1 line rest h =>
    obtain ⟨-, ⟨raw, hraw, -⟩ | ⟨-, hnil, rfl⟩⟩ := readFrame_steady_ok hline h
    · cases hraw
    · rw [hnil]
      constructor
      · rw [parse_nil]
      · rw [parse_nil]
        rfl
      · rw [parse_nil]
        exact ⟨[], rfl, rfl⟩
  | case2 line stop rest h =>
    obtain ⟨raw, e, rfl, hoctets, hparse⟩ := readFrame_steady_error hline h
    constructor
    · rw [hparse]
    · rw [hparse]
      rfl
    · rw [hparse]
      exact ⟨raw, hoctets, rfl⟩
  | case3 line raw rest h next ih =>
    obtain ⟨hrest, ⟨raw', hraw, hwhole, hoctets⟩ | ⟨hnone, -⟩⟩ := readFrame_steady_ok hline h
    · cases hraw
      rw [hoctets]
      exact (ih hrest).next hwhole
    · cases hnone

/-! ### The frames -/

/-- Whatever the line does, what is read as a frame is as long as its header says. -/
theorem isWhole_of_mem_readAll {line : Line} {raw : Octets} (h : raw ∈ (readAll line).frames) :
    IsWhole raw := by
  fun_induction readAll line with
  | case1 | case2 => exact absurd h List.not_mem_nil
  | case3 line raw' rest hread next ih =>
    rw [List.mem_cons] at h
    cases h with
    | inl heq =>
      obtain ⟨raw'', hraw, hwhole, -⟩ | ⟨hnone, -⟩ := readFrame_ok hread
      · cases hraw
        exact heq ▸ hwhole
      · cases hnone
    | inr hmem => exact ih hmem

theorem IsWhole.length_mem {raw : Octets} (h : IsWhole raw) :
    8 ≤ raw.length ∧ raw.length ≤ 260 := by
  have hlength := h.length
  have hrange := h.inRange
  simp only [InRange, smallestLength, largestLength] at hrange
  omega

def protocolOf (raw : Octets) : Nat := ofBigEndian ((raw.drop 2).take 2)

/-- A frame that was read is refused for its protocol or not at all, and never for its length. -/
theorem IsWhole.decodeTcp_error {raw : Octets} (h : IsWhole raw) (e : ServerError) :
    Frame.decodeTcp raw = .error e ↔ protocolOf raw ≠ 0 ∧
      e = .malformedFrame (.foreignProtocol (UInt16.ofNat (protocolOf raw))) := by
  obtain ⟨t₁, t₀, p₁, p₀, l₁, l₀, unit, function, payload, rfl⟩ :=
    Frame.eq_cons_of_eight_le h.length_mem.1
  have hprotocol : protocolOf (t₁ :: t₀ :: p₁ :: p₀ :: l₁ :: l₀ :: unit :: function :: payload) =
      (word p₁ p₀).toNat := ofBigEndian_pair p₁ p₀
  have hannounced : (word l₁ l₀).toNat = payload.length + 2 := by
    have hlength : payload.length + 8 = 6 + (word l₁ l₀).toNat := h.length
    omega
  have hzero : word p₁ p₀ = 0 ↔ (word p₁ p₀).toNat = 0 := UInt16.toNat_inj.symm
  rw [Frame.decodeTcp_cons, if_neg (Decidable.not_not.2 hannounced), hprotocol, UInt16.ofNat_toNat]
  by_cases hserved : word p₁ p₀ = 0
  · rw [if_neg (Decidable.not_not.2 hserved)]
    exact iff_of_false (nomatch ·) fun hforeign => hforeign.1 (hzero.1 hserved)
  · rw [if_pos hserved]
    constructor
    · intro heq
      exact ⟨mt hzero.2 hserved, (Except.error.inj heq).symm⟩
    · intro hforeign
      rw [hforeign.2]

/-- However the octets of a stream are cut, the frames, the error and the number of octets used up
are those that the parser finds in the octets. The decoder takes every frame of the served protocol
and no other. -/
theorem readAll_pieces (pieces : List Octets) (hpieces : ∀ piece ∈ pieces, piece ≠ []) :
    let octets := pieces.flatten
    let found := readAll (pieces.map .data)
    found.frames = (parse octets).frames ∧ found.stop = (parse octets).fault.map .failed ∧
      octets.length - found.rest.octets.length = (parse octets).consumed ∧
      found.rest.octets = octets.drop (parse octets).consumed ∧
      ∀ raw ∈ found.frames, 8 ≤ raw.length ∧ raw.length ≤ 260 ∧
        ∀ e, Frame.decodeTcp raw = .error e ↔ protocolOf raw ≠ 0 ∧
          e = .malformedFrame (.foreignProtocol (UInt16.ofNat (protocolOf raw))) := by
  intro octets found
  have hagrees := agrees_readAll (steady_pieces hpieces)
  rw [octets_pieces] at hagrees
  obtain ⟨used, hoctets, hused⟩ := hagrees.consumed
  refine ⟨hagrees.frames, hagrees.stop, ?_, ?_, ?_⟩
  · have hlength := congrArg List.length hoctets
    rw [List.length_append, hused] at hlength
    exact Nat.sub_eq_of_eq_add hlength
  · have hdrop := congrArg (List.drop used.length) hoctets
    rw [List.drop_left, hused] at hdrop
    exact hdrop.symm
  · intro raw hraw
    have hwhole := isWhole_of_mem_readAll hraw
    exact ⟨hwhole.length_mem.1, hwhole.length_mem.2, hwhole.decodeTcp_error⟩

/-- A request, a frame of another protocol, and a header that announces too little. -/
theorem readAll_pieces_refused :
    let pieces : List Octets := [[0, 1, 0], [0, 0, 6, 1, 6, 0, 2, 0, 99, 0, 2], [0, 1, 0, 2, 1],
      [7, 0, 3, 0, 0, 0, 1], [1, 255], [255]]
    let found := readAll (pieces.map .data)
    (∀ piece ∈ pieces, piece ≠ []) ∧
      found.frames = [[0, 1, 0, 0, 0, 6, 1, 6, 0, 2, 0, 99], [0, 2, 0, 1, 0, 2, 1, 7]] ∧
      found.stop = some (.failed (.malformedFrame (.announcedLength 1 2 254))) ∧
      found.rest.octets = [255, 255] ∧
      Frame.decodeTcp [0, 2, 0, 1, 0, 2, 1, 7] = .error (.malformedFrame (.foreignProtocol 1)) := by
  intro pieces found
  have hpieces : ∀ piece ∈ pieces, piece ≠ [] := by decide
  obtain ⟨hframes, hstop, -, hrest, hdecode⟩ := readAll_pieces pieces hpieces
  have hfound : found.frames =
      [[0, 1, 0, 0, 0, 6, 1, 6, 0, 2, 0, 99], [0, 2, 0, 1, 0, 2, 1, 7]] :=
    hframes.trans (by decide +kernel)
  have hforeign : [0, 2, 0, 1, 0, 2, 1, 7] ∈ found.frames := by
    rw [hfound]
    exact List.mem_cons_of_mem _ List.mem_cons_self
  refine ⟨hpieces, hfound, hstop.trans (by decide +kernel), hrest.trans (by decide +kernel), ?_⟩
  exact ((hdecode _ hforeign).2.2 _).2 ⟨by decide, by decide⟩

end Mbap

end Modbus
