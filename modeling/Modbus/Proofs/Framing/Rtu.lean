import Modbus.Framing.Rtu
import Modbus.Proofs.Frame.Codec
import Modbus.Proofs.Line.Signals

namespace Modbus.Rtu

open Line Signal

/-- Requests of the function tell by themselves where they end. -/
def IsStandard (function : UInt8) : Prop :=
  1 ≤ function ∧ function ≤ 6 ∨ function = 15 ∨ function = 16

instance (function : UInt8) : Decidable (IsStandard function) :=
  inferInstanceAs (Decidable (_ ∧ _ ∨ _ ∨ _))

inductive IsRequest : Frame → Prop
  | fixed {unit function : UInt8} {payload : Octets} (hcode : 1 ≤ function ∧ function ≤ 6)
      (hlength : payload.length = 4) : IsRequest (.rtu unit function payload)
  | counted {unit function count : UInt8} {fields data : Octets}
      (hcode : function = 15 ∨ function = 16) (hfields : fields.length = 4)
      (hdata : data.length = count.toNat) :
      IsRequest (.rtu unit function (fields ++ count :: data))
  | other {unit function : UInt8} {payload : Octets} (hcode : ¬ IsStandard function)
      (hlength : (Frame.rtu unit function payload).encode.length ≤ 256) :
      IsRequest (.rtu unit function payload)

/-- Signals that carry requests. Silence may stand anywhere but inside a request that does not tell
where it ends, and there has to be one right behind such a request. -/
inductive Carries : List Signal → List Frame → Prop
  | done : Carries [] []
  | silence {signals : List Signal} {frames : List Frame} (h : Carries signals frames) :
      Carries (quiet :: signals) frames
  | standard {front back : List Signal} {f : Frame} {frames : List Frame}
      (hcode : IsStandard f.function) (hfront : octets front = f.encode)
      (h : Carries back frames) : Carries (front ++ back) (f :: frames)
  | other {back : List Signal} {f : Frame} {frames : List Frame} (hcode : ¬ IsStandard f.function)
      (h : Carries back frames) : Carries (f.encode.map octet ++ quiet :: back) (f :: frames)

/-- The length of a request of a standard function, its checksum included. Blocks count their data in
the octet at offset 6. -/
def requestLength (function : UInt8) (octets : Octets) : Nat :=
  if 1 ≤ function ∧ function ≤ 6 then 8 else 9 + (octets.getD 6 0).toNat

theorem extent_fixed {function : UInt8} (h : 1 ≤ function ∧ function ≤ 6) :
    extent function = .fixed := by
  have hrange : FunctionCode.readCoils ≤ function ∧ function ≤ FunctionCode.writeSingleRegister := h
  simp [extent, hrange]

theorem extent_counted {function : UInt8} (h : function = 15 ∨ function = 16) :
    extent function = .counted := by
  rcases h with rfl | rfl <;> rfl

theorem extent_other {function : UInt8} (h : ¬ IsStandard function) :
    extent function = .untilQuiet := by
  have hrange : ¬ (FunctionCode.readCoils ≤ function ∧
    function ≤ FunctionCode.writeSingleRegister) := fun hcode => h (.inl hcode)
  have hblock : ¬ (function = FunctionCode.writeMultipleCoils ∨
    function = FunctionCode.writeMultipleRegisters) := fun hcode => h (.inr hcode)
  simp only [extent, Bool.and_eq_true, decide_eq_true_eq, Bool.or_eq_true, beq_iff_eq, hrange,
    hblock, if_false]

theorem not_fixed_of_counted {function : UInt8} (h : function = 15 ∨ function = 16) :
    ¬ (1 ≤ function ∧ function ≤ 6) := by
  rcases h with rfl | rfl <;> decide

/-- What is read behind the head makes up the length of the request. -/
theorem extent_standard {function : UInt8} (h : IsStandard function) (unit : UInt8)
    (more : Octets) :
    extent function = .fixed ∧ requestLength function (unit :: function :: more) = 2 + 6 ∨
      extent function = .counted ∧
        requestLength function (unit :: function :: more) = 2 + (7 + (more.getD 4 0).toNat) := by
  rcases h with hfixed | hcounted
  · exact .inl ⟨extent_fixed hfixed, if_pos hfixed⟩
  · refine .inr ⟨extent_counted hcounted, ?_⟩
    rw [requestLength, if_neg (not_fixed_of_counted hcounted), ← Nat.add_assoc]
    rfl

/-- The head of a frame is read, and then its body as its function demands. -/
theorem readFrame_steady {line : Line} (hline : line.Steady) {unit function : UInt8} {more : Octets}
    (h : line.octets = unit :: function :: more) :
    ∃ behind : Line, behind.Steady ∧ behind.octets = more ∧
      behind.signals = skip 2 line.signals ∧
      readFrame line = (readBody [unit, function] behind).andThen fun raw line =>
        (.ok (some raw), line) := by
  obtain ⟨behind, hbehind, hsignals, hbegin⟩ := begin_steady 2 hline (by simp [h])
    (by decide) fun head line => (readBody head line).andThen fun raw line => (.ok (some raw), line)
  refine ⟨behind, hbehind, ?_, hsignals, ?_⟩
  · rw [octets_of_skip hsignals, h]
    rfl
  · rw [readFrame, hbegin, h]
    rfl

theorem getLast_head (unit function : UInt8) : [unit, function].getLast?.getD 0 = function := rfl

theorem readBody_fixed (unit : UInt8) {function : UInt8} {line : Line} (hline : line.Steady)
    (hfunction : extent function = .fixed) (hcount : 6 ≤ line.octets.length) :
    ∃ rest : Line, rest.Steady ∧ rest.signals = skip 6 line.signals ∧
      readBody [unit, function] line = (.ok (unit :: function :: line.octets.take 6), rest) := by
  have hread := readExact_steady 6 hline hcount
  refine ⟨_, hread.steady, hread.signals, ?_⟩
  simp only [readBody, getLast_head, hfunction, checksumLength, hread.andThen, List.cons_append,
    List.nil_append]

theorem getLast_fields {octets : Octets} (h : 5 ≤ octets.length) :
    (octets.take 5).getLast?.getD 0 = octets.getD 4 0 := by
  have hfour : octets[4]? = some octets[4] := List.getElem?_eq_getElem h
  rw [List.getLast?_take, if_neg (by decide), List.getD_eq_getElem?_getD, hfour]
  rfl

/-- The fifth octet behind the head counts the data, and the checksum is behind the data. -/
theorem readBody_counted (unit : UInt8) {function : UInt8} {line : Line} (hline : line.Steady)
    (hfunction : extent function = .counted)
    (hcount : 7 + (line.octets.getD 4 0).toNat ≤ line.octets.length) :
    ∃ rest : Line, rest.Steady ∧
      rest.signals = skip (7 + (line.octets.getD 4 0).toNat) line.signals ∧
      readBody [unit, function] line =
        (.ok (unit :: function :: line.octets.take (7 + (line.octets.getD 4 0).toNat)), rest) := by
  have hhead := readExact_steady 5 hline (by omega)
  have hdata := readExact_steady ((line.octets.getD 4 0).toNat + 2) hhead.steady (by
    rw [hhead.octets_rest, List.length_drop]
    omega)
  have hsum : 5 + ((line.octets.getD 4 0).toNat + 2) = 7 + (line.octets.getD 4 0).toNat := by omega
  refine ⟨_, hdata.steady, ?_, ?_⟩
  · rw [hdata.signals, hhead.signals, skip_skip, hsum]
  · simp only [readBody, getLast_head, hfunction, readCounted, hhead.andThen, checksumLength]
    rw [getLast_fields (by omega), hdata.andThen, hhead.octets_rest, List.append_assoc,
      ← List.take_add, hsum]
    rfl

/-- A request of a standard function that is there as a whole is read, wherever the line is quiet,
and nothing behind it. -/
theorem readFrame_whole {line : Line} (hline : line.Steady) {unit function : UInt8} {more : Octets}
    (hcode : IsStandard function) (h : line.octets = unit :: function :: more)
    (hlength : requestLength function line.octets ≤ line.octets.length) :
    ∃ rest : Line, rest.Steady ∧
      rest.signals = skip (requestLength function line.octets) line.signals ∧
      readFrame line =
        (.ok (some (line.octets.take (requestLength function line.octets))), rest) := by
  obtain ⟨behind, hbehind, rfl, hsignals, hread⟩ := readFrame_steady hline h
  rw [h] at hlength ⊢
  obtain ⟨hfixed, htotal⟩ | ⟨hcounted, htotal⟩ := extent_standard hcode unit behind.octets
  · rw [htotal, List.length_cons, List.length_cons] at hlength
    obtain ⟨rest, hrest, hskip, hbody⟩ := readBody_fixed unit hbehind hfixed (by omega)
    refine ⟨rest, hrest, by rw [hskip, hsignals, skip_skip, htotal], ?_⟩
    rw [hread, hbody, htotal]
    rfl
  · rw [htotal, List.length_cons, List.length_cons] at hlength
    obtain ⟨rest, hrest, hskip, hbody⟩ := readBody_counted unit hbehind hcounted (by omega)
    refine ⟨rest, hrest, by rw [hskip, hsignals, skip_skip, htotal], ?_⟩
    rw [hread, hbody, htotal, Nat.add_comm 2]
    rfl

/-- A request that is cut off is read as far as it goes, in vain. -/
theorem readFrame_cut {line : Line} (hline : line.Steady) {unit function : UInt8} {more : Octets}
    (hcode : IsStandard function) (h : line.octets = unit :: function :: more)
    (hlength : line.octets.length < requestLength function line.octets) :
    readFrame line = (.error (.failed .earlyEof), []) := by
  obtain ⟨behind, hbehind, rfl, hsignals, hread⟩ := readFrame_steady hline h
  rw [h] at hlength
  rw [hread]
  obtain ⟨hfixed, htotal⟩ | ⟨hcounted, htotal⟩ := extent_standard hcode unit behind.octets
  · rw [htotal, List.length_cons, List.length_cons] at hlength
    simp only [readBody, getLast_head, hfixed, checksumLength]
    rw [readExact_short hbehind (by omega)]
    rfl
  · rw [htotal, List.length_cons, List.length_cons] at hlength
    simp only [readBody, getLast_head, hcounted, readCounted, checksumLength]
    by_cases hfive : 5 ≤ behind.octets.length
    · -- The count is there, and the data or the checksum are not.
      have hhead := readExact_steady 5 hbehind hfive
      rw [hhead.andThen, getLast_fields hfive, readExact_short hhead.steady (by
        rw [hhead.octets_rest, List.length_drop]
        omega)]
      rfl
    · rw [readExact_short hbehind (by omega)]
      rfl

theorem IsRequest.encode_cons {f : Frame} (h : IsRequest f) :
    ∃ unit more, f.encode = unit :: f.function :: more := by
  cases h <;> exact ⟨_, _, rfl⟩

theorem requestLength_encode {f : Frame} (hrequest : IsRequest f) (hcode : IsStandard f.function)
    (more : Octets) : requestLength f.function (f.encode ++ more) = f.encode.length := by
  cases hrequest with
  | fixed hfixed hlength =>
    rw [Frame.length_encode_rtu, hlength]
    exact if_pos hfixed
  | @counted unit function count fields data hcounted hfields hdata =>
    have hcount : (fields ++ count :: data).length = 5 + count.toNat := by
      rw [List.length_append, List.length_cons, hfields, hdata]
      omega
    rw [Frame.length_encode_rtu, hcount, requestLength]
    match fields, hfields with
    | [_, _, _, _], _ =>
      change (if 1 ≤ function ∧ function ≤ 6 then 8 else 9 + count.toNat) = _
      rw [if_neg (not_fixed_of_counted hcounted)]
      omega
  | other hother => exact absurd hcode hother

/-- A request of a standard function is read whole, wherever the line is quiet. -/
theorem readFrame_standard {line : Line} (hline : line.Steady) {f : Frame} {more : Octets}
    (hrequest : IsRequest f) (hcode : IsStandard f.function)
    (h : line.octets = f.encode ++ more) :
    ∃ rest : Line, rest.Steady ∧ rest.signals = skip f.encode.length line.signals ∧
      readFrame line = (.ok (some f.encode), rest) := by
  obtain ⟨unit, tail, hencode⟩ := hrequest.encode_cons
  have hcons : line.octets = unit :: f.function :: (tail ++ more) := by
    rw [h, hencode, List.cons_append, List.cons_append]
  have hlength : requestLength f.function line.octets = f.encode.length := by
    rw [h, requestLength_encode hrequest hcode]
  obtain ⟨rest, hrest, hskip, hread⟩ := readFrame_whole hline hcode hcons (by
    rw [hlength, h, List.length_append]
    exact Nat.le_add_right _ _)
  rw [hlength] at hskip hread
  rw [h, List.take_left] at hread
  exact ⟨rest, hrest, hskip, hread⟩

theorem collect_full {raw : Octets} (h : longestFrame ≤ raw.length) (line : Line) :
    collect raw line = (.ok raw, line) := by
  rw [collect, if_neg (Nat.not_lt_of_le h)]

/-- What is kept of a line that is read until it is quiet, with room for so many octets: those in
front of the first silence, as far as there is room for them. Where there is room for no more, some
that came with the last read are lost. -/
structure Keeps (room : Nat) (line : Line) (kept : Octets) (rest : Line) : Prop where
  eq_take : kept = (untilQuiet line.signals).take room
  steady : rest.Steady
  behind : ∃ lost : Octets, lost.length < readSize ∧ (kept.length < room → lost = []) ∧
    (line.signals = (kept ++ lost).map octet ++ rest.signals ∨
      line.signals = (kept ++ lost).map octet ++ quiet :: rest.signals)

namespace Keeps

variable {room : Nat} {line left rest : Line} {kept xs : Octets}

theorem nothing (hquiet : room = 0 ∨ untilQuiet line.signals = []) (hrest : rest.Steady)
    (hsignals : line.signals = rest.signals ∨ line.signals = quiet :: rest.signals) :
    Keeps room line [] rest := by
  refine ⟨?_, hrest, [], by decide, fun _ => rfl, hsignals⟩
  rcases hquiet with rfl | hnil
  · rw [List.take_zero]
  · rw [hnil, List.take_nil]

/-- A read that leaves room is followed by others. -/
theorem after_read (hsignals : line.signals = xs.map octet ++ left.signals)
    (hroom : xs.length ≤ room) (h : Keeps (room - xs.length) left kept rest) :
    Keeps room line (xs ++ kept) rest := by
  obtain ⟨lost, hlost, hfull, hbehind⟩ := h.behind
  refine ⟨?_, h.steady, lost, hlost, ?_, ?_⟩
  · rw [hsignals, untilQuiet_map_octet, List.take_append, List.take_of_length_le hroom, ← h.eq_take]
  · intro hshort
    rw [List.length_append] at hshort
    exact hfull (by omega)
  · rw [hsignals, List.append_assoc, List.map_append, List.append_assoc, List.append_assoc]
    exact hbehind.imp (congrArg _) (congrArg _)

/-- The read that more than fills the room is the last one. -/
theorem last_read (hleft : left.Steady) (hsignals : line.signals = xs.map octet ++ left.signals)
    (hroom : room < xs.length) (hsize : xs.length ≤ readSize) (hpos : 0 < room) :
    Keeps room line (xs.take room) left := by
  refine ⟨?_, hleft, xs.drop room, ?_, ?_, .inl ?_⟩
  · rw [hsignals, untilQuiet_map_octet, List.take_append_of_le_length (Nat.le_of_lt hroom)]
  · rw [List.length_drop]
    omega
  · intro hshort
    rw [List.length_take_of_le (Nat.le_of_lt hroom)] at hshort
    exact absurd hshort (Nat.lt_irrefl room)
  · rw [List.take_append_drop, hsignals]

/-- Nothing is lost if there is a silence right behind what is kept. -/
theorem before_quiet {back : List Signal} (h : Keeps room line kept rest)
    (hsignals : line.signals = kept.map octet ++ quiet :: back) :
    rest.signals = back ∨ rest.signals = quiet :: back := by
  obtain ⟨lost, -, -, hbehind⟩ := h.behind
  rw [hsignals, List.map_append, List.append_assoc, List.append_assoc, List.append_cancel_left_eq,
    List.append_cancel_left_eq] at hbehind
  cases lost with
  | nil => simpa [eq_comm, or_comm] using hbehind
  | cons => simp at hbehind

end Keeps

/-- Octets are collected up to the first silence, or up to the greatest length of a frame. -/
theorem collect_steady {raw : Octets} {line : Line} (hline : line.Steady)
    (hlength : raw.length ≤ longestFrame) :
    ∃ (kept : Octets) (rest : Line), collect raw line = (.ok (raw ++ kept), rest) ∧
      Keeps (longestFrame - raw.length) line kept rest := by
  fun_induction collect raw line with
  | case1 raw line hshort rest hread =>
    obtain ⟨xs, heq, hrest, ⟨hne, -⟩ | ⟨-, hquiet, hsignals⟩⟩ :=
      readUntilQuiet_steady hline (by decide) hread
    · exact absurd (Except.ok.inj heq).symm hne
    · exact ⟨[], rest, by rw [List.append_nil], .nothing (.inr hquiet) hrest hsignals⟩
  | case2 raw line hshort b more rest hread ih =>
    obtain ⟨xs, heq, hrest, ⟨-, hsize, hsignals⟩ | ⟨hnil, -⟩⟩ :=
      readUntilQuiet_steady hline (by decide) hread
    · obtain rfl := Except.ok.inj heq
      by_cases hfits : (b :: more).length ≤ longestFrame - raw.length
      · rw [List.take_of_length_le hfits] at ih ⊢
        have htotal : (raw ++ b :: more).length = raw.length + (b :: more).length :=
          List.length_append
        obtain ⟨kept, left, hcollect, hkeeps⟩ := ih hrest (by omega)
        rw [htotal, ← Nat.sub_sub] at hkeeps
        refine ⟨b :: more ++ kept, left, ?_, hkeeps.after_read hsignals hfits⟩
        rw [hcollect, List.append_assoc]
      · have hroom : longestFrame - raw.length < (b :: more).length := Nat.lt_of_not_le hfits
        have hfull : longestFrame ≤
            (raw ++ (b :: more).take (longestFrame - raw.length)).length := by
          rw [List.length_append, List.length_take_of_le (Nat.le_of_lt hroom)]
          omega
        exact ⟨_, rest, collect_full hfull rest,
          .last_read hrest hsignals hroom hsize (Nat.sub_pos_of_lt hshort)⟩
    · exact absurd ((Except.ok.inj heq).trans hnil) (List.cons_ne_nil b more)
  | case3 raw line hshort stop rest hread =>
    obtain ⟨xs, heq, -⟩ := readUntilQuiet_steady hline (by decide) hread
    cases heq
  | case4 raw line hlong =>
    have hroom : longestFrame - raw.length = 0 := by omega
    exact ⟨[], line, by rw [List.append_nil], .nothing (.inl hroom) hline (.inl rfl)⟩

/-- Where nothing announces the length, the head is followed by what is kept until the line is
quiet. -/
theorem readFrame_quiet {line : Line} (hline : line.Steady) {unit function : UInt8} {more : Octets}
    (hcode : ¬ IsStandard function) (h : line.octets = unit :: function :: more) :
    ∃ (behind : Line) (kept : Octets) (rest : Line), behind.octets = more ∧
      behind.signals = skip 2 line.signals ∧ Keeps (longestFrame - 2) behind kept rest ∧
      readFrame line = (.ok (some (unit :: function :: kept)), rest) := by
  obtain ⟨behind, hbehind, hmore, hsignals, hread⟩ := readFrame_steady hline h
  have hhead : [unit, function].length ≤ longestFrame := Nat.le_add_left 2 254
  obtain ⟨kept, rest, hcollect, hkeeps⟩ := collect_steady hbehind hhead
  refine ⟨behind, kept, rest, hmore, hsignals, hkeeps, ?_⟩
  simp only [hread, readBody, getLast_head, extent_other hcode, hcollect]
  rfl

/-- Any other request is read up to the silence behind it. -/
theorem readFrame_other {line : Line} (hline : line.Steady) {f : Frame} {back : List Signal}
    (hrequest : IsRequest f) (hcode : ¬ IsStandard f.function)
    (h : line.signals = f.encode.map octet ++ quiet :: back) :
    ∃ rest : Line, rest.Steady ∧ (rest.signals = back ∨ rest.signals = quiet :: back) ∧
      readFrame line = (.ok (some f.encode), rest) := by
  cases hrequest with
  | fixed hfixed => exact absurd (.inl hfixed) hcode
  | counted hcounted => exact absurd (.inr hcounted) hcode
  | @other unit function payload hother hlength =>
    let body := payload ++ littleEndian (Crc.checksum (unit :: function :: payload))
    have hbody : line.octets = unit :: function :: (body ++ octets back) := by
      rw [← octets_signals, h, octets_append, octets_map_octet, octets_quiet]
      rfl
    obtain ⟨behind, kept, rest, -, hsignals, hkeeps, hread⟩ := readFrame_quiet hline hother hbody
    have hstretch : behind.signals = body.map octet ++ quiet :: back := by
      rw [hsignals, h]
      exact skip_map_octet 2 (Nat.le_add_left _ _) _
    have hfits : body.length ≤ longestFrame - 2 := by
      rw [Frame.length_encode_rtu] at hlength
      rw [List.length_append, length_littleEndian, longestFrame]
      omega
    have hkept : kept = body := by
      rw [hkeeps.eq_take, hstretch, untilQuiet_map_octet, untilQuiet, List.append_nil,
        List.take_of_length_le hfits]
    rw [hkept] at hkeeps hread
    exact ⟨rest, hkeeps.steady, hkeeps.before_quiet hstretch, hread⟩

theorem IsRequest.decode {f : Frame} (h : IsRequest f) : Frame.decodeRtu f.encode = .ok f := by
  cases h <;> exact Frame.decodeRtu_encode _ _ _

theorem readFrame_steady_end {line : Line} (hline : line.Steady) (hnil : line.octets = []) :
    readFrame line = (.ok none, []) := by
  rw [readFrame, read_steady_end hline hnil]
  rfl

end Modbus.Rtu
