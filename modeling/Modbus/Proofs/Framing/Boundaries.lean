import Modbus.Proofs.Framing.Layout

namespace Modbus.Rtu

open Line Signal

variable {line : Line} {unit function : UInt8} {more : Octets}

/-! ### Standard functions -/

/-- A request that is read and decoded has the payload that its function demands. -/
theorem payload_of_isRequest {f : Frame} (hrequest : IsRequest f) (hcode : IsStandard f.function) :
    f.payload.length =
      if 1 ≤ f.function ∧ f.function ≤ 6 then 4 else 5 + (f.payload.getD 4 0).toNat := by
  cases hrequest with
  | fixed hfixed hlength => exact hlength.trans (if_pos hfixed).symm
  | @counted unit function count fields data hcounted hfields hdata =>
    have hcount : (fields ++ count :: data).getD 4 0 = count := by
      rw [List.getD_eq_getElem?_getD, List.getElem?_append_right (Nat.le_of_eq hfields), hfields]
      rfl
    change (fields ++ count :: data).length =
      if 1 ≤ function ∧ function ≤ 6 then 4 else 5 + ((fields ++ count :: data).getD 4 0).toNat
    rw [if_neg (not_fixed_of_counted hcounted), hcount, List.length_append, List.length_cons, hfields, hdata]
    omega
  | other hother => exact absurd hcode hother

theorem function_of_decodeRtu {f : Frame} (h : Frame.decodeRtu (unit :: function :: more) = .ok f) :
    f.function = function := by
  obtain ⟨-, unit', function', payload, rfl, hencode⟩ := Frame.decodeRtu_ok h
  exact (List.cons.inj (List.cons.inj hencode).2).1

/-- Unit and function are part of what is read. -/
theorem exists_requestLength (hcode : IsStandard function) (unit : UInt8) (more : Octets) :
    ∃ count, requestLength function (unit :: function :: more) = count + 2 := by
  obtain ⟨-, h⟩ | ⟨-, h⟩ := extent_standard hcode unit more
  · exact ⟨_, h.trans (Nat.add_comm 2 _)⟩
  · exact ⟨_, h.trans (Nat.add_comm 2 _)⟩

/-- What is read, and the octets that are left, follow from the octets of the line. -/
theorem readFrame_octets (hline : line.Steady) (hoctets : line.octets = unit :: function :: more)
    (hcode : IsStandard function) :
    ((readFrame line).1, (readFrame line).2.octets) =
      if requestLength function line.octets ≤ line.octets.length then
        (.ok (some (line.octets.take (requestLength function line.octets))),
          line.octets.drop (requestLength function line.octets))
      else (.error (.failed .earlyEof), []) := by
  split
  · next hlength =>
    obtain ⟨rest, -, hskip, hread⟩ := readFrame_whole hline hcode hoctets hlength
    rw [hread, octets_of_skip hskip]
  · next hlength =>
    rw [readFrame_cut hline hcode hoctets (Nat.lt_of_not_le hlength)]
    rfl

theorem exists_tail_of_readFrame (hline : line.Steady)
    (hoctets : line.octets = unit :: function :: more) (hcode : IsStandard function) {raw : Octets}
    (hraw : (readFrame line).1 = .ok (some raw)) : ∃ tail, raw = unit :: function :: tail := by
  have hread := readFrame_octets hline hoctets hcode
  obtain ⟨count, hcount⟩ := exists_requestLength hcode unit more
  rw [hoctets, hcount] at hread
  split at hread
  · refine ⟨more.take count, ?_⟩
    exact Option.some.inj (Except.ok.inj (hraw.symm.trans (Prod.mk.inj hread).1))
  · cases hraw.symm.trans (Prod.mk.inj hread).1

/-- A request of a standard function is read by its length and nothing is read beyond it, however the
line is cut and wherever it is quiet. If the stream ends before, that is the error. What is decoded
has the payload of its function. -/
theorem readFrame_by_length (hline : line.Steady) (hoctets : line.octets = unit :: function :: more)
    (hcode : IsStandard function) :
    let length := requestLength function line.octets
    (length ≤ line.octets.length →
      (readFrame line).1 = .ok (some (line.octets.take length)) ∧
        (readFrame line).2.octets = line.octets.drop length) ∧
    (line.octets.length < length →
      (readFrame line).1 = .error (.failed .earlyEof) ∧ (readFrame line).2.octets = []) ∧
    (∀ line' : Line, line'.Steady → line'.octets = line.octets →
      (readFrame line').1 = (readFrame line).1 ∧
        (readFrame line').2.octets = (readFrame line).2.octets) ∧
    ∀ raw f, (readFrame line).1 = .ok (some raw) → Frame.decodeRtu raw = .ok f →
      f.payload.length =
        if 1 ≤ function ∧ function ≤ 6 then 4 else 5 + (f.payload.getD 4 0).toNat := by
  intro length
  have hread := readFrame_octets hline hoctets hcode
  refine ⟨?_, ?_, ?_, ?_⟩
  · intro hlength
    rw [if_pos hlength] at hread
    exact Prod.mk.inj hread
  · intro hlength
    rw [if_neg (Nat.not_le_of_lt hlength)] at hread
    exact Prod.mk.inj hread
  · intro line' hline' hsame
    have hread' := readFrame_octets hline' (hsame.trans hoctets) hcode
    rw [hsame] at hread'
    exact Prod.mk.inj (hread'.trans hread.symm)
  · intro raw f hraw hdecode
    have hlayout : Layout raw := layout_readFrame (Prod.ext hraw rfl)
    obtain ⟨tail, rfl⟩ := exists_tail_of_readFrame hline hoctets hcode hraw
    have hfunction : f.function = function := function_of_decodeRtu hdecode
    rw [← hfunction] at hcode ⊢
    exact payload_of_isRequest (hlayout.isRequest hdecode) hcode

/-- A block of two registers on a line that is cut and quiet in its middle, and the same block
without its last octet. -/
theorem readFrame_by_length_torn :
    let f := Frame.rtu 17 16 [0, 1, 0, 2, 4, 0, 10, 1, 2]
    let block := f.encode
    let line : Line := [.silence, .data [17], .silence, .data [16, 0, 1, 0, 2], .data [4, 0],
      .silence, .data (block.drop 8 ++ [99, 3])]
    let short : Line := [.data (block.take 7), .silence, .data (block.drop 7).dropLast]
    line.Steady ∧ line.octets = block ++ [99, 3] ∧ short.Steady ∧ IsStandard 16 ∧
      (readFrame line).1 = .ok (some block) ∧ (readFrame line).2.octets = [99, 3] ∧
      (readFrame short).1 = .error (.failed .earlyEof) ∧ (readFrame short).2.octets = [] ∧
      Frame.decodeRtu block = .ok f ∧ f.payload.length = 5 + (f.payload.getD 4 0).toNat := by
  intro f block line short
  have hline : line.Steady := by decide
  have hshort : short.Steady := by decide
  have hcode : IsStandard 16 := by decide
  have hoctets : line.octets = 17 :: 16 :: (block ++ [99, 3]).drop 2 := by decide +kernel
  have hcut : short.octets = 17 :: 16 :: (block.drop 2).dropLast := by decide +kernel
  obtain ⟨hwhole, -, -, hpayload⟩ := readFrame_by_length hline hoctets hcode
  obtain ⟨-, hends, -⟩ := readFrame_by_length hshort hcut hcode
  obtain ⟨hread, hrest⟩ := hwhole (by decide +kernel)
  obtain ⟨hfailed, hnothing⟩ := hends (by decide +kernel)
  have hblock : line.octets.take (requestLength 16 line.octets) = block := by decide +kernel
  have hdecode : Frame.decodeRtu block = .ok f := Frame.decodeRtu_encode _ _ _
  rw [hblock] at hread
  exact ⟨hline, by decide +kernel, hshort, hcode, hread, hrest.trans (by decide +kernel), hfailed,
    hnothing, hdecode, hpayload block f hread hdecode⟩

/-! ### Other functions -/

/-- The octets of the line are those kept, those lost and those left. -/
theorem Keeps.octets {room : Nat} {kept : Octets} {rest : Line} (h : Keeps room line kept rest) :
    ∃ lost : Octets, line.octets = kept ++ lost ++ rest.octets ∧ lost.length ≤ 63 ∧
      (kept.length < room → lost = []) := by
  obtain ⟨lost, hlost, hfull, hbehind⟩ := h.behind
  refine ⟨lost, ?_, Nat.le_of_lt_succ hlost, hfull⟩
  rw [← octets_signals, ← octets_signals]
  rcases hbehind with hsignals | hsignals
  · rw [hsignals, octets_append, octets_map_octet]
  · rw [hsignals, octets_append, octets_map_octet, octets_quiet]

theorem readFrame_stretch (hline : line.Steady)
    (hoctets : line.octets = unit :: function :: more) (hcode : ¬ IsStandard function) :
    let raw := (unit :: function :: untilQuiet (skip 2 line.signals)).take 256
    ∃ (lost : Octets) (rest : Line), readFrame line = (.ok (some raw), rest) ∧
      line.octets = raw ++ lost ++ rest.octets ∧ lost.length ≤ 63 ∧
      (raw.length ≠ 256 → lost = []) := by
  intro raw
  obtain ⟨behind, kept, rest, hmore, hsignals, hkeeps, hread⟩ := readFrame_quiet hline hcode hoctets
  have hraw : raw = unit :: function :: kept := by
    rw [hkeeps.eq_take, hsignals]
    rfl
  obtain ⟨lost, hbehind, hlost, hfull⟩ := hkeeps.octets
  rw [← hraw] at hread
  refine ⟨lost, rest, hread, ?_, hlost, ?_⟩
  · rw [hoctets, ← hmore, hbehind, hraw, List.cons_append, List.cons_append, List.cons_append,
      List.cons_append]
  · intro hshort
    have hlength : raw.length ≤ 256 := List.length_take_le 256 _
    have hkept : raw.length = kept.length + 2 := congrArg List.length hraw
    apply hfull
    rw [longestFrame]
    omega

/-- A request of any other function is the unit, the function and what follows up to the first
silence, or the first 256 octets of that, however the octets are cut. Nothing else is taken from the
line, but for up to 63 octets behind a frame of 256. -/
theorem readFrame_until_quiet (hline : line.Steady)
    (hoctets : line.octets = unit :: function :: more) (hcode : ¬ IsStandard function) :
    let raw := (unit :: function :: untilQuiet (skip 2 line.signals)).take 256
    (∃ (lost : Octets) (rest : Line), readFrame line = (.ok (some raw), rest) ∧
      line.octets = raw ++ lost ++ rest.octets ∧ lost.length ≤ 63 ∧
      (raw.length ≠ 256 → lost = [])) ∧
    ∀ line' : Line, line'.Steady → line'.signals = line.signals →
      (readFrame line').1 = (readFrame line).1 := by
  intro raw
  have hstretch := readFrame_stretch hline hoctets hcode
  refine ⟨hstretch, ?_⟩
  intro line' hline' hsame
  obtain ⟨lost, rest, hread, -⟩ := hstretch
  have hoctets' : line'.octets = unit :: function :: more := by
    rw [← octets_signals, hsame, octets_signals, hoctets]
  obtain ⟨lost', rest', hread', -⟩ := readFrame_stretch hline' hoctets' hcode
  rw [hread, hread', hsame]

/-- Two ways to cut the same octets. The frame is the same, and behind it 63 octets are lost where
all but one of its own came before the last read, and 2 where all came at once. -/
theorem readFrame_until_quiet_lost :
    let frame : Octets := [1, 65] ++ List.replicate 253 0 ++ [7]
    let line : Line := [.data ([1, 65] ++ List.replicate 253 0), .data (List.replicate 64 7),
      .silence, .data [9]]
    let line' : Line := [.data ([1, 65] ++ List.replicate 253 0 ++ List.replicate 64 7), .silence,
      .data [9]]
    line.Steady ∧ line'.Steady ∧ line'.signals = line.signals ∧ ¬ IsStandard 65 ∧
      (readFrame line).1 = .ok (some frame) ∧ (readFrame line).2.octets = [9] ∧
      (readFrame line').1 = .ok (some frame) ∧
      (readFrame line').2.octets = List.replicate 61 7 ++ [9] := by
  intro frame line line'
  have hline : line.Steady := by decide +kernel
  have hline' : line'.Steady := by decide +kernel
  have hsame : line'.signals = line.signals := by decide +kernel
  have hcode : ¬ IsStandard 65 := by decide
  have hoctets : line.octets = 1 :: 65 :: line.octets.drop 2 := rfl
  obtain ⟨⟨lost, rest, hread, -⟩, hcuts⟩ := readFrame_until_quiet hline hoctets hcode
  have hraw : (1 :: 65 :: untilQuiet (skip 2 line.signals)).take 256 = frame := by decide +kernel
  have hframe : (readFrame line).1 = .ok (some frame) := by rw [hread, hraw]
  exact ⟨hline, hline', hsame, hcode, hframe, by decide +kernel,
    (hcuts line' hline' hsame).trans hframe, by decide +kernel⟩

end Modbus.Rtu
