import Modbus.Proofs.Frame.Accepted
import Modbus.Proofs.Framing.Rtu
import Modbus.Proofs.Line.Breaks

namespace Modbus.Rtu

open Line

/-- Octets as long as a request of their function, the checksum included. -/
inductive Layout : Octets → Prop
  | fixed {unit function : UInt8} {rest : Octets} (hcode : 1 ≤ function ∧ function ≤ 6)
    (hlength : rest.length = 6) : Layout (unit :: function :: rest)
  | counted {unit function count : UInt8} {fields data : Octets}
    (hcode : function = 15 ∨ function = 16) (hfields : fields.length = 4)
    (hdata : data.length = count.toNat + 2) :
    Layout (unit :: function :: (fields ++ count :: data))
  | other {unit function : UInt8} {rest : Octets} (hcode : ¬ IsStandard function)
    (hlength : (unit :: function :: rest).length ≤ longestFrame) : Layout (unit :: function :: rest)

/-- What is collected begins with what was there, and gets no longer than a frame can be. -/
theorem collect_ok {raw all : Octets} {line rest : Line} (h : collect raw line = (.ok all, rest)) :
    ∃ more, all = raw ++ more ∧ (raw.length ≤ longestFrame → all.length ≤ longestFrame) := by
  fun_induction collect raw line with
  | case1 raw line =>
    cases h
    exact ⟨[], (List.append_nil _).symm, id⟩
  | case2 raw line hshort b more left hread ih =>
    obtain ⟨later, rfl, hlength⟩ := ih h
    refine ⟨_, List.append_assoc .., fun _ => hlength ?_⟩
    rw [List.length_append, List.length_take]
    omega
  | case3 => cases h
  | case4 raw line =>
    cases h
    exact ⟨[], (List.append_nil _).symm, id⟩

theorem layout_readBody {unit function : UInt8} {line rest : Line} {raw : Octets}
    (h : readBody [unit, function] line = (.ok raw, rest)) : Layout raw := by
  rw [readBody, getLast_head] at h
  by_cases hfixed : 1 ≤ function ∧ function ≤ 6
  · rw [extent_fixed hfixed] at h
    obtain ⟨more, left, hmore, hdone⟩ := Read.andThen_ok h
    cases hdone
    exact .fixed hfixed (readExact_ok hmore).1
  by_cases hcounted : function = 15 ∨ function = 16
  · rw [extent_counted hcounted] at h
    obtain ⟨fields, left, hfields, h⟩ := Read.andThen_ok h
    obtain ⟨data, left, hdata, hdone⟩ := Read.andThen_ok h
    cases hdone
    have hfive := (readExact_ok hfields).1
    have hlength := (readExact_ok hdata).1
    rcases List.eq_nil_or_concat fields with rfl | ⟨front, count, rfl⟩
    · exact absurd hfive (by decide)
    · rw [List.concat_eq_append, List.length_append] at hfive
      rw [List.concat_eq_append, List.getLast?_concat] at hlength
      rw [List.concat_eq_append, List.append_assoc, List.append_assoc]
      exact .counted hcounted (Nat.add_right_cancel hfive) hlength
  · have hother : ¬ IsStandard function := fun hcode => hcode.elim hfixed hcounted
    rw [extent_other hother] at h
    obtain ⟨more, rfl, hlength⟩ := collect_ok h
    exact .other hother (hlength (Nat.le_add_left 2 254))

theorem layout_readFrame {line rest : Line} {raw : Octets}
    (h : readFrame line = (.ok (some raw), rest)) : Layout raw := by
  obtain ⟨first, left, hfirst, h⟩ := Read.andThen_ok h
  obtain ⟨hne, hle, -⟩ | ⟨rfl, -⟩ := read_ok (by decide : 0 < 2) hfirst
  · rw [List.isEmpty_eq_false_iff.2 hne, if_neg Bool.false_ne_true] at h
    obtain ⟨more, left, hmore, h⟩ := Read.andThen_ok h
    obtain ⟨raw', left, hbody, hdone⟩ := Read.andThen_ok h
    cases hdone
    have hlength : (first ++ more).length = 2 := by
      rw [List.length_append, (readExact_ok hmore).1, Nat.add_sub_of_le hle]
    match hhead : first ++ more, hlength with
    | [unit, function], _ =>
      rw [hhead] at hbody
      exact layout_readBody hbody
  · cases h

theorem Layout.isRequest {raw : Octets} {f : Frame} (h : Layout raw)
    (hdecode : Frame.decodeRtu raw = .ok f) : IsRequest f := by
  obtain ⟨-, unit, function, payload, rfl, hencode⟩ := Frame.decodeRtu_ok hdecode
  rw [Frame.encode_rtu] at hencode
  cases h with
  | fixed hcode hlength =>
    simp only [List.cons.injEq] at hencode
    obtain ⟨rfl, rfl, rfl⟩ := hencode
    rw [List.length_append, length_littleEndian] at hlength
    exact .fixed hcode (Nat.add_right_cancel hlength)
  | @counted _ _ count fields data hcode hfields hdata =>
    simp only [List.cons.injEq] at hencode
    obtain ⟨rfl, rfl, hbody⟩ := hencode
    -- The last two octets of the data are the checksum, so the payload ends before them.
    have hsplit : (fields ++ count :: data.take count.toNat) ++ data.drop count.toNat =
        payload ++ littleEndian (Crc.checksum (unit :: function :: payload)) := by
      rw [List.append_assoc, List.cons_append, List.take_append_drop]
      exact hbody.symm
    obtain ⟨rfl, -⟩ := List.append_inj' hsplit (by simp [hdata, length_littleEndian])
    exact .counted hcode hfields (List.length_take_of_le (by omega))
  | other hcode hlength =>
    simp only [List.cons.injEq] at hencode
    obtain ⟨rfl, rfl, rfl⟩ := hencode
    exact .other hcode hlength

end Modbus.Rtu
