import Modbus.Payload.Builder
import Modbus.Payload.Cursor
import Modbus.Payload.Reader

namespace Modbus.Payload

/-- A word is the number of two octets. -/
theorem readWord_eq_map (left : Octets) : readWord left =
    (readOctets 2 left).map (Prod.map (fun octets => UInt16.ofNat (ofBigEndian octets)) id) := by
  match left with
  | [] | [_] => rfl
  | high :: low :: rest =>
    have hword : UInt16.ofNat (ofBigEndian [high, low]) = word high low := by
      rw [ofBigEndian_pair, UInt16.ofNat_toNat]
    have hread : readOctets 2 (high :: low :: rest) = .ok ([high, low], rest) :=
      readOctets_append [high, low] rest
    rw [hread, readWord, ← hword]
    rfl

namespace Cursor

variable {α β : Type}

/-! ### What is left -/

def left (c : Cursor) : Octets := c.data.drop c.position.toNat

theorem length_left (c : Cursor) : c.left.length = c.data.length - c.position.toNat :=
  List.length_drop

theorem length_left_lt (c : Cursor) : c.left.length < UInt64.size := by
  rw [length_left]
  exact Nat.lt_of_le_of_lt (Nat.sub_le _ _) c.countable

theorem left_start (data : Octets) (countable : data.length < UInt64.size) :
    (start data countable).left = data := rfl

theorem toNat_remaining (c : Cursor) : c.remaining.toNat = c.left.length := by
  have hlength : (UInt64.ofNat c.data.length).toNat = c.data.length :=
    UInt64.toNat_ofNat_of_lt' c.countable
  have hposition : c.position ≤ UInt64.ofNat c.data.length := by
    rw [UInt64.le_iff_toNat_le, hlength]
    exact c.within
  rw [remaining, UInt64.toNat_sub_of_le _ _ hposition, hlength, length_left]

def before (c : Cursor) (count : Nat) : Cursor where
  data := c.data
  position := UInt64.ofNat (c.data.length - count)
  countable := c.countable
  within := by
    rw [UInt64.toNat_ofNat_of_lt' (Nat.lt_of_le_of_lt (Nat.sub_le _ _) c.countable)]
    exact Nat.sub_le _ _

theorem toNat_before (c : Cursor) (count : Nat) :
    (c.before count).position.toNat = c.data.length - count :=
  UInt64.toNat_ofNat_of_lt' (Nat.lt_of_le_of_lt (Nat.sub_le _ _) c.countable)

/-- The position is told by the number of octets behind it. -/
theorem before_left {c after : Cursor} (hdata : after.data = c.data) :
    c.before after.left.length = after := by
  have hwithin := after.within
  refine Cursor.ext hdata.symm ?_
  rw [← UInt64.toNat_inj, toNat_before, length_left, hdata]
  rw [hdata] at hwithin
  omega

theorem left_before {c : Cursor} {front rest : Octets} (h : c.left = front ++ rest) :
    (c.before rest.length).left = rest := by
  have hlength := congrArg List.length h
  have hposition : c.data.length - rest.length = c.position.toNat + front.length := by
    have hwithin := c.within
    rw [length_left, List.length_append] at hlength
    omega
  change c.data.drop (c.before rest.length).position.toNat = rest
  rw [toNat_before, hposition, ← List.drop_drop]
  change c.left.drop front.length = rest
  rw [h, List.drop_left]

/-! ### Reads through a cursor are reads of what is left -/

def follow (c : Cursor) : Reading α → Except Exception α × Cursor
  | .ok (value, left) => (.ok value, c.before left.length)
  | .error e => (.error e, c)

theorem follow_ok {c after : Cursor} {left : Octets} (hdata : after.data = c.data)
    (hleft : after.left = left) (value : α) : c.follow (.ok (value, left)) = (.ok value, after) := by
  rw [follow, ← hleft, before_left hdata]

theorem follow_map (c : Cursor) (f : α → β) (reading : Reading α) :
    c.follow (reading.map (Prod.map f id)) = Prod.map (Except.map f) id (c.follow reading) := by
  cases reading <;> rfl

theorem readOctet_eq (c : Cursor) : c.readOctet = c.follow (Payload.readOctet c.left) := by
  by_cases h : c.position.toNat < c.data.length
  · have hleft : c.left = c.data[c.position.toNat] :: c.data.drop (c.position.toNat + 1) :=
      List.drop_eq_getElem_cons h
    rw [readOctet, dif_pos h, hleft, Payload.readOctet]
    refine (follow_ok rfl ?_ _).symm
    rw [left, c.toNat_next h]
  · have hleft : c.left = [] := List.drop_eq_nil_of_le (Nat.le_of_not_lt h)
    rw [readOctet, dif_neg h, hleft]
    rfl

theorem readOctets_eq (c : Cursor) (count : UInt64) :
    c.readOctets count = c.follow (Payload.readOctets count.toNat c.left) := by
  have hwithin := c.within
  have hcountable := c.countable
  have hlength := c.length_left
  by_cases h : count.toNat ≤ c.left.length
  · have hsum : c.position.toNat + count.toNat < UInt64.size := by omega
    have hstop : c.position ≤ c.position + count ∧ (c.position + count).toNat ≤ c.data.length := by
      rw [UInt64.le_iff_toNat_le, toNat_sum hsum]
      omega
    have htaken : c.data.extract c.position.toNat (c.position + count).toNat =
        c.left.take count.toNat := by
      rw [List.extract_eq_take_drop, toNat_sum hsum, Nat.add_sub_cancel_left, left]
    rw [readOctets, sum?, if_pos hsum]
    dsimp only
    rw [dif_pos hstop, htaken, Payload.readOctets, if_pos h, List.splitAt_eq]
    refine (follow_ok rfl ?_ _).symm
    rw [left, left, toNat_sum hsum, List.drop_drop]
  · rw [Payload.readOctets, if_neg h, readOctets, sum?]
    by_cases hsum : c.position.toNat + count.toNat < UInt64.size
    · have hstop :
          ¬ (c.position ≤ c.position + count ∧ (c.position + count).toNat ≤ c.data.length) := by
        rw [toNat_sum hsum]
        omega
      rw [if_pos hsum]
      exact dif_neg hstop
    · rw [if_neg hsum]
      rfl

theorem readWord_eq (c : Cursor) : c.readWord = c.follow (Payload.readWord c.left) := by
  have htwo : (2 : UInt64).toNat = 2 := rfl
  change Prod.map (Except.map fun octets => UInt16.ofNat (ofBigEndian octets)) id (c.readOctets 2) = _
  rw [readOctets_eq, htwo, ← follow_map, ← readWord_eq_map]

end Cursor

/-! ### Reads and what they take -/

inductive Read
  | octet
  | word
  | octets (count : UInt64)
  deriving DecidableEq, Repr

def Read.size : Read → UInt64
  | octet => 1
  | word => 2
  | octets count => count

inductive Value
  | octet (b : UInt8)
  | word (w : UInt16)
  | octets (bs : Octets)
  deriving DecidableEq, Repr

namespace Value

def encode : Value → Octets
  | octet b => [b]
  | word w => bigEndian w
  | octets bs => bs

def shape : Value → Read
  | octet _ => .octet
  | word _ => .word
  | octets bs => .octets (UInt64.ofNat bs.length)

theorem size_shape {value : Value} (h : value.encode.length < UInt64.size) :
    value.shape.size.toNat = value.encode.length := by
  cases value with
  | octet b => rfl
  | word w => rfl
  | octets bs => exact UInt64.toNat_ofNat_of_lt' h

end Value

/-- The values that an item is read back as. A list of words is read word by word. -/
def Item.values : Item → List Value
  | octet b => [.octet b]
  | word w => [.word w]
  | words ws => ws.map .word
  | octets bs => [.octets bs]

theorem encode_values (item : Item) : item.values.flatMap Value.encode = item.encode := by
  cases item with
  | octet b => rfl
  | word w => exact List.append_nil _
  | words ws => exact List.flatMap_map _ _ _
  | octets bs => exact List.append_nil _

theorem build_eq (items : List Item) :
    build items = (items.flatMap Item.values).flatMap Value.encode := by
  rw [List.flatMap_assoc]
  simp only [encode_values, build]

def Read.take : Read → Octets → Reading Value
  | octet, left => (readOctet left).map (Prod.map .octet id)
  | word, left => (readWord left).map (Prod.map .word id)
  | octets count, left => (readOctets count.toNat left).map (Prod.map .octets id)

/-- What a read comes to: a value of its shape from the front, or a refusal since too little is
there. -/
inductive Read.Outcome (r : Read) (left : Octets) : Reading Value → Prop
  | taken (value : Value) (rest : Octets) (hshape : value.shape = r)
    (hleft : left = value.encode ++ rest) : Outcome r left (.ok (value, rest))
  | refused (hshort : left.length < r.size.toNat) : Outcome r left (.error .illegalDataValue)

theorem Read.outcome (r : Read) (left : Octets) : r.Outcome left (r.take left) := by
  cases r with
  | octet =>
    match left with
    | [] => exact .refused Nat.zero_lt_one
    | b :: rest => exact .taken (.octet b) rest rfl rfl
  | word =>
    match left with
    | [] => exact .refused Nat.zero_lt_two
    | [_] => exact .refused Nat.one_lt_two
    | high :: low :: rest =>
      apply Outcome.taken (.word (Modbus.word high low)) rest rfl
      rw [Value.encode, bigEndian_word]
      rfl
  | octets count =>
    by_cases h : count.toNat ≤ left.length
    · have hlength : (left.take count.toNat).length = count.toNat := List.length_take_of_le h
      rw [take, readOctets, if_pos h, List.splitAt_eq]
      apply Outcome.taken (.octets (left.take count.toNat)) (left.drop count.toNat)
      · rw [Value.shape, hlength, UInt64.ofNat_toNat]
      · exact (List.take_append_drop _ _).symm
    · rw [take, readOctets, if_neg h]
      exact .refused (Nat.lt_of_not_le h)

/-- A value is read from the front, whatever is behind it. -/
theorem take_encode {value : Value} (h : value.encode.length < UInt64.size) (rest : Octets) :
    value.shape.take (value.encode ++ rest) = .ok (value, rest) := by
  cases value with
  | octet b => rfl
  | word w =>
    rw [Value.shape, Value.encode, Read.take, readWord_append]
    rfl
  | octets bs =>
    have hlength : (UInt64.ofNat bs.length).toNat = bs.length := UInt64.toNat_ofNat_of_lt' h
    rw [Value.shape, Value.encode, Read.take, hlength, readOctets_append]
    rfl

/-! ### Reads in a row -/

namespace Cursor

def read (c : Cursor) : Read → Except Exception Value × Cursor
  | .octet => Prod.map (Except.map .octet) id c.readOctet
  | .word => Prod.map (Except.map .word) id c.readWord
  | .octets count => Prod.map (Except.map .octets) id (c.readOctets count)

/-- One read after the other, whether or not those before went through. -/
def readAll (c : Cursor) : List Read → List (Except Exception Value) × Cursor
  | [] => ([], c)
  | r :: reads =>
    let (outcome, after) := c.read r
    let (outcomes, last) := after.readAll reads
    (outcome :: outcomes, last)

def taken : Except Exception Value → Octets
  | .ok value => value.encode
  | .error _ => []

theorem read_eq (c : Cursor) (r : Read) : c.read r = c.follow (r.take c.left) := by
  cases r with
  | octet => rw [read, readOctet_eq, Read.take, follow_map]
  | word => rw [read, readWord_eq, Read.take, follow_map]
  | octets count => rw [read, readOctets_eq, Read.take, follow_map]

theorem size_le {c : Cursor} {value : Value} {rest : Octets} (h : c.left = value.encode ++ rest) :
    value.shape.size ≤ c.remaining := by
  have hlength := congrArg List.length h
  have hbound := c.length_left_lt
  rw [List.length_append] at hlength
  rw [UInt64.le_iff_toNat_le, toNat_remaining, Value.size_shape (by omega), hlength]
  exact Nat.le_add_right _ _

section Outcome

variable {c : Cursor} {r : Read} {reading : Reading Value}

theorem follow_ok_iff (h : r.Outcome c.left reading) :
    (∃ value after, c.follow reading = (.ok value, after)) ↔ r.size ≤ c.remaining := by
  cases h with
  | taken value rest hshape hleft =>
    subst hshape
    exact iff_of_true ⟨_, _, rfl⟩ (size_le hleft)
  | refused hshort =>
    rw [← toNat_remaining, ← UInt64.lt_iff_toNat_lt] at hshort
    exact iff_of_false nofun (UInt64.not_le.2 hshort)

theorem of_follow_error (h : r.Outcome c.left reading) {e : Exception} {after : Cursor}
    (hfollow : c.follow reading = (.error e, after)) : e = .illegalDataValue ∧ after = c := by
  cases h with
  | taken => cases hfollow
  | refused =>
    cases hfollow
    exact ⟨rfl, rfl⟩

theorem left_follow (h : r.Outcome c.left reading) :
    c.left = taken (c.follow reading).1 ++ (c.follow reading).2.left := by
  cases h with
  | taken value rest _ hleft =>
    change c.left = value.encode ++ (c.before rest.length).left
    rw [left_before hleft, hleft]
  | refused => rfl

end Outcome

/-- What was left is what the successful reads have taken, and behind it what is left now. -/
theorem left_readAll (c : Cursor) (reads : List Read) :
    c.left = (c.readAll reads).1.flatMap taken ++ (c.readAll reads).2.left := by
  induction reads generalizing c with
  | nil => rfl
  | cons r reads ih =>
    calc c.left
        = taken (c.read r).1 ++ (c.read r).2.left := by
          rw [read_eq, ← left_follow (r.outcome c.left)]
      _ = taken (c.read r).1 ++ (((c.read r).2.readAll reads).1.flatMap taken ++
            ((c.read r).2.readAll reads).2.left) := by rw [← ih]
      _ = (c.readAll (r :: reads)).1.flatMap taken ++ (c.readAll (r :: reads)).2.left := by
          rw [← List.append_assoc]
          rfl

/-- Values that are in front are read by reads of their shapes, and those reads take no more. -/
theorem readAll_values {c : Cursor} {values : List Value} {rest : Octets}
    (h : c.left = values.flatMap Value.encode ++ rest) :
    c.readAll (values.map Value.shape) = (values.map .ok, c.before rest.length) := by
  induction values generalizing c with
  | nil =>
    have hrest : c.left = rest := h
    rw [← hrest, before_left rfl]
    rfl
  | cons value values ih =>
    rw [List.flatMap_cons, List.append_assoc] at h
    have hbound := c.length_left_lt
    have hread : c.read value.shape =
        (.ok value, c.before (values.flatMap Value.encode ++ rest).length) := by
      rw [h, List.length_append] at hbound
      rw [read_eq, h, take_encode (by omega)]
      rfl
    rw [List.map_cons, readAll, hread]
    dsimp only
    rw [ih (left_before h)]
    rfl

/-- Items that were put into a payload are read back by reads of the same shapes in the same order,
and nothing remains. After any reads of any payload, the octets that the successful ones have taken
are the front of the payload up to those that remain, a read goes through just if as many octets
remain as it asks for, and one that fails has moved nothing. -/
theorem reads_exact :
    (∀ (items : List Item) (countable : (build items).length < UInt64.size),
      let values := items.flatMap Item.values
      let run := (start (build items) countable).readAll (values.map Value.shape)
      run.1 = values.map .ok ∧ run.2.remaining = 0) ∧
    ∀ (payload : Octets) (countable : payload.length < UInt64.size) (reads : List Read),
      let run := (start payload countable).readAll reads
      let c := run.2
      run.1.flatMap taken <+: payload ∧
        (run.1.flatMap taken).length + c.remaining.toNat = payload.length ∧
        ∀ r, ((∃ value after, c.read r = (.ok value, after)) ↔ r.size ≤ c.remaining) ∧
          ∀ e after, c.read r = (.error e, after) → e = .illegalDataValue ∧ after = c := by
  constructor
  · intro items countable values run
    have hfront : (start (build items) countable).left = values.flatMap Value.encode ++ [] := by
      rw [List.append_nil, left_start, build_eq]
    have hrun : run = (values.map .ok, (start (build items) countable).before 0) :=
      readAll_values hfront
    have hnone : ((start (build items) countable).before 0).left = [] := left_before hfront
    rw [hrun, ← UInt64.toNat_inj, toNat_remaining, hnone]
    exact ⟨rfl, rfl⟩
  · intro payload countable reads run c
    have hleft : payload = run.1.flatMap taken ++ c.left :=
      (start payload countable).left_readAll reads
    refine ⟨⟨c.left, hleft.symm⟩, ?_, fun r => ?_⟩
    · rw [toNat_remaining, ← List.length_append, ← hleft]
    · rw [read_eq]
      exact ⟨follow_ok_iff (r.outcome c.left), fun _ _ => of_follow_error (r.outcome c.left)⟩

/-- Items of every kind, and reads behind whose failures others go through. From position 2, the
first of the two large counts leads to a position that does not fit in 64 bits, and the second one
to the last that does. -/
theorem reads_exact_interleaved :
    let items : List Item := [.octet 4, .words [10, 258], .octets [1, 2, 3], .word 65280]
    let payload : Octets := [1, 2, 3]
    let reads : List Read :=
      [.word, .octets 18446744073709551614, .octets 18446744073709551613, .word, .octets 1]
    ∃ (hitems : (build items).length < UInt64.size) (hpayload : payload.length < UInt64.size),
      let back := (start (build items) hitems).readAll [.octet, .word, .word, .octets 3, .word]
      let run := (start payload hpayload).readAll reads
      back.1 = [.ok (.octet 4), .ok (.word 10), .ok (.word 258), .ok (.octets [1, 2, 3]),
        .ok (.word 65280)] ∧ back.2.remaining = 0 ∧
      run.1.map Except.toOption = [some (.word 258), none, none, none, some (.octets [3])] ∧
      run.1.flatMap taken <+: payload ∧ ¬ Read.octet.size ≤ run.2.remaining ∧
      run.2.read .octet = (.error .illegalDataValue, run.2) := by
  intro items payload reads
  refine ⟨by decide, by decide, ?_⟩
  intro back run
  obtain ⟨hbuilt, hany⟩ := reads_exact
  obtain ⟨hback, hnone⟩ := hbuilt items (by decide)
  obtain ⟨hfront, -, hnext⟩ := hany payload (by decide) reads
  have hempty : ¬ Read.octet.size ≤ run.2.remaining := by decide +kernel
  obtain ⟨hok, hfails⟩ := hnext .octet
  have hrefused : run.2.read .octet = (.error .illegalDataValue, run.2) := by
    match hread : run.2.read .octet with
    | (.ok value, after) => exact absurd (hok.1 ⟨value, after, hread⟩) hempty
    | (.error e, after) =>
      obtain ⟨he, hafter⟩ := hfails e after hread
      rw [he, hafter]
  exact ⟨hback, hnone, by decide +kernel, hfront, hempty, hrefused⟩

end Cursor

end Modbus.Payload
