import Modbus.Framing.Mbap
import Modbus.Proofs.Frame.Codec
import Modbus.Proofs.Line.Breaks
import Modbus.Proofs.Line.Signals

namespace Modbus.Mbap

open Line

/-- The header of an encoded frame announces what follows the header, and one octet of it. -/
theorem announcedLength_encode (transaction : UInt16) (unit function : UInt8) {payload : Octets}
    (h : payload.length ≤ 252) (more : Octets) :
    announcedLength (((Frame.tcp transaction unit function payload).encode ++ more).take
      headerLength) = payload.length + 2 := by
  have length : (UInt16.ofNat (payload.length + 2)).toNat = payload.length + 2 := by
    rw [UInt16.toNat_ofNat']
    omega
  simp only [Frame.encode_tcp, List.cons_append, headerLength, List.take_succ_cons, List.take_zero,
    announcedLength, word_highOctet_lowOctet, length]

theorem readBody_steady (header : Octets) {line : Line} (hline : line.Steady)
    (hsmallest : smallestLength ≤ announcedLength header)
    (hlargest : announcedLength header ≤ largestLength)
    (hcount : announcedLength header - 1 ≤ line.octets.length) :
    ∃ rest : Line, rest.Steady ∧ rest.octets = line.octets.drop (announcedLength header - 1) ∧
      readBody header line =
        (.ok (some (header ++ line.octets.take (announcedLength header - 1))), rest) := by
  have hread := readExact_steady _ hline hcount
  refine ⟨_, hread.steady, hread.octets_rest, ?_⟩
  have inRange : ¬ (announcedLength header < smallestLength ∨
      largestLength < announcedLength header) := by omega
  simp only [readBody, Bool.or_eq_true, decide_eq_true_eq, if_neg inRange, hread.andThen]

theorem readFrame_encode {line : Line} (hline : line.Steady) {transaction : UInt16}
    {unit function : UInt8} {payload more : Octets} (hpayload : payload.length ≤ 252)
    (h : line.octets = (Frame.tcp transaction unit function payload).encode ++ more) :
    ∃ rest : Line, rest.Steady ∧ rest.octets = more ∧
      readFrame line =
        (.ok (some (Frame.tcp transaction unit function payload).encode), rest) := by
  let raw := (Frame.tcp transaction unit function payload).encode
  have hraw : raw.length = payload.length + 8 := by simp [raw, Frame.encode_tcp]
  have htotal : line.octets.length = payload.length + 8 + more.length := by
    rw [h, List.length_append, ← hraw]
  have hannounced : announcedLength (line.octets.take headerLength) = payload.length + 2 := by
    rw [h]
    exact announcedLength_encode transaction unit function hpayload more
  obtain ⟨behind, hbehind, hsignals, hbegin⟩ := begin_steady headerLength hline
    (by simp only [headerLength]; omega) (by decide) readBody
  have hoctets := octets_of_skip hsignals
  obtain ⟨rest, hrest, hmore, hbody⟩ := readBody_steady (line.octets.take headerLength)
    hbehind
    (by rw [hannounced]; simp only [smallestLength]; omega)
    (by rw [hannounced]; simp only [largestLength]; omega)
    (by rw [hannounced, hoctets, List.length_drop]; simp only [headerLength]; omega)
  have hend : headerLength + (announcedLength (line.octets.take headerLength) - 1) =
      raw.length := by
    rw [hannounced, hraw]
    simp only [headerLength]
    omega
  refine ⟨rest, hrest, ?_, ?_⟩
  · rw [hmore, hoctets, List.drop_drop, hend, h]
    exact List.drop_left
  · rw [readFrame, hbegin, hbody, hoctets, ← List.take_add, hend, h]
    exact congrArg (fun octets => (Except.ok (some octets), rest)) List.take_left

theorem readFrame_steady_end {line : Line} (hline : line.Steady) (hnil : line.octets = []) :
    readFrame line = (.ok none, []) := by
  rw [readFrame, read_steady_end hline hnil]
  rfl

/-! ### Any line -/

def InRange (raw : Octets) : Prop :=
  smallestLength ≤ announcedLength (raw.take headerLength) ∧
    announcedLength (raw.take headerLength) ≤ largestLength

structure IsWhole (raw : Octets) : Prop where
  header : headerLength ≤ raw.length
  inRange : InRange raw
  length : raw.length = 6 + announcedLength (raw.take headerLength)

/-- Less than a frame: a header that is not all there, or one with less behind it than it announces.
-/
def IsPartial (raw : Octets) : Prop :=
  raw.length < headerLength ∨
    InRange raw ∧ raw.length < 6 + announcedLength (raw.take headerLength)

/-- Why no frame is read from octets and the line behind them, and what is left of that line. -/
inductive Fails (raw : Octets) (behind : Line) : Stop → Line → Prop
  | cut {rest : Line} (hne : raw ≠ []) (hpartial : IsPartial raw) (hends : behind.Ends rest) :
    Fails raw behind (.failed .earlyEof) rest
  | broken {stop : Stop} {rest : Line} (hpartial : IsPartial raw)
    (hbreaks : behind.Breaks stop rest) : Fails raw behind stop rest
  | refused (hheader : raw.length = headerLength) (houtside : ¬ InRange raw) :
    Fails raw behind (.failed (.malformedFrame
      (.announcedLength (announcedLength raw) smallestLength largestLength))) behind

theorem headerLength_pos : 0 < headerLength := by decide

theorem isPartial_nil : IsPartial [] := .inl headerLength_pos

/-- Inside a frame the end of the stream is an error like any other. -/
theorem Fails.of_partial {raw : Octets} {behind rest : Line} {stop : Stop} (hne : raw ≠ [])
    (hpartial : IsPartial raw)
    (hwhy : stop = .failed .earlyEof ∧ behind.Ends rest ∨ behind.Breaks stop rest) :
    Fails raw behind stop rest := by
  obtain ⟨rfl, hends⟩ | hbreaks := hwhy
  · exact .cut hne hpartial hends
  · exact .broken hpartial hbreaks

theorem take_header {header : Octets} (hheader : header.length = headerLength) (body : Octets) :
    (header ++ body).take headerLength = header := by
  rw [← hheader, List.take_left]

theorem inRange_append {header : Octets} (hheader : header.length = headerLength) (body : Octets) :
    InRange (header ++ body) ↔
      smallestLength ≤ announcedLength header ∧ announcedLength header ≤ largestLength := by
  rw [InRange, take_header hheader]

theorem readBody_eq (header : Octets) (line : Line) :
    readBody header line =
      if smallestLength ≤ announcedLength header ∧ announcedLength header ≤ largestLength then
        (line.readExact (announcedLength header - 1)).andThen fun body line =>
          (.ok (some (header ++ body)), line)
      else
        (.error (.failed (.malformedFrame
          (.announcedLength (announcedLength header) smallestLength largestLength))), line) := by
  by_cases hrange : smallestLength ≤ announcedLength header ∧ announcedLength header ≤ largestLength
  · have hinside : ¬ (announcedLength header < smallestLength ∨
        largestLength < announcedLength header) := by omega
    simp only [readBody, Bool.or_eq_true, decide_eq_true_eq, if_neg hinside, if_pos hrange]
  · have houtside : announcedLength header < smallestLength ∨
        largestLength < announcedLength header := by omega
    simp only [readBody, Bool.or_eq_true, decide_eq_true_eq, if_pos houtside, if_neg hrange]

theorem readBody_ok {header : Octets} {line rest : Line} {found : Option Octets}
    (hheader : header.length = headerLength) (h : readBody header line = (.ok found, rest)) :
    ∃ body, found = some (header ++ body) ∧ IsWhole (header ++ body) ∧ line.Brings body rest := by
  rw [readBody_eq] at h
  split at h
  · next hrange =>
    obtain ⟨body, left, hbody, hdone⟩ := Read.andThen_ok h
    cases hdone
    obtain ⟨hlength, hbrings⟩ := readExact_ok hbody
    refine ⟨body, rfl, ⟨?_, (inRange_append hheader body).2 hrange, ?_⟩, hbrings⟩
    · rw [List.length_append, hheader]
      exact Nat.le_add_right _ _
    · rw [take_header hheader, List.length_append, hheader, hlength]
      simp only [headerLength, smallestLength] at hrange ⊢
      omega
  · cases h

theorem readBody_error {header : Octets} {line rest : Line} {stop : Stop}
    (hheader : header.length = headerLength) (h : readBody header line = (.error stop, rest)) :
    ∃ (body : Octets) (behind : Line), line.Brings body behind ∧
      Fails (header ++ body) behind stop rest := by
  rw [readBody_eq] at h
  split at h
  · next hrange =>
    obtain hstop | ⟨body, left, -, hdone⟩ := Read.andThen_error h
    · obtain ⟨body, behind, hshort, hbrings, hwhy⟩ := readExact_error hstop
      have hne : header ≠ [] := List.length_pos_iff.1 (hheader ▸ headerLength_pos)
      have hpartial : IsPartial (header ++ body) := by
        refine .inr ⟨(inRange_append hheader body).2 hrange, ?_⟩
        rw [take_header hheader, List.length_append, hheader]
        simp only [headerLength]
        omega
      exact ⟨body, behind, hbrings,
        .of_partial (List.append_ne_nil_of_left_ne_nil hne body) hpartial hwhy⟩
    · cases hdone
  · next hrange =>
    cases h
    have houtside : ¬ InRange (header ++ []) := mt (inRange_append hheader []).1 hrange
    rw [List.append_nil] at houtside
    exact ⟨[], line, .nothing line, (List.append_nil header).symm ▸ .refused hheader houtside⟩

/-- Nothing is returned only if the stream ended before the first octet of a frame. -/
theorem readFrame_ok {line rest : Line} {found : Option Octets}
    (h : readFrame line = (.ok found, rest)) :
    (∃ raw, found = some raw ∧ IsWhole raw ∧ line.Brings raw rest) ∨
      found = none ∧ ∃ behind : Line, line.Brings [] behind ∧ behind.Ends rest := by
  obtain ⟨first, left, hfirst, h⟩ := Read.andThen_ok h
  obtain ⟨hne, hle, hbrings⟩ | ⟨rfl, hended⟩ := read_ok headerLength_pos hfirst
  · rw [List.isEmpty_eq_false_iff.2 hne, if_neg Bool.false_ne_true] at h
    obtain ⟨more, left, hmore, h⟩ := Read.andThen_ok h
    obtain ⟨hlength, hbringsMore⟩ := readExact_ok hmore
    have hheader : (first ++ more).length = headerLength := by
      rw [List.length_append, hlength, Nat.add_sub_of_le hle]
    obtain ⟨body, rfl, hwhole, hbringsBody⟩ := readBody_ok hheader h
    exact .inl ⟨_, rfl, hwhole, (hbrings.trans hbringsMore).trans hbringsBody⟩
  · cases h
    exact .inr ⟨rfl, hended⟩

/-- If no frame is read, what was taken off the line is no whole frame, or has a header that is
refused. -/
theorem readFrame_error {line rest : Line} {stop : Stop}
    (h : readFrame line = (.error stop, rest)) :
    ∃ (raw : Octets) (behind : Line), line.Brings raw behind ∧ Fails raw behind stop rest := by
  obtain hstop | ⟨first, left, hfirst, h⟩ := Read.andThen_error h
  · obtain ⟨behind, hbrings, hbreaks⟩ := read_error hstop
    exact ⟨[], behind, hbrings, .broken isPartial_nil hbreaks⟩
  obtain ⟨hne, hle, hbrings⟩ | ⟨rfl, -⟩ := read_ok headerLength_pos hfirst
  · rw [List.isEmpty_eq_false_iff.2 hne, if_neg Bool.false_ne_true] at h
    obtain hstop | ⟨more, left, hmore, h⟩ := Read.andThen_error h
    · obtain ⟨more, behind, hshort, hbringsMore, hwhy⟩ := readExact_error hstop
      have hpartial : IsPartial (first ++ more) := by
        refine .inl ?_
        rw [List.length_append]
        omega
      exact ⟨first ++ more, behind, hbrings.trans hbringsMore,
        .of_partial (List.append_ne_nil_of_left_ne_nil hne more) hpartial hwhy⟩
    · obtain ⟨hlength, hbringsMore⟩ := readExact_ok hmore
      have hheader : (first ++ more).length = headerLength := by
        rw [List.length_append, hlength, Nat.add_sub_of_le hle]
      obtain ⟨body, behind, hbringsBody, hfails⟩ := readBody_error hheader h
      exact ⟨_, behind, (hbrings.trans hbringsMore).trans hbringsBody, hfails⟩
  · cases h

end Modbus.Mbap
