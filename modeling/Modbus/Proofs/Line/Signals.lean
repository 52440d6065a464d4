import Modbus.Line

namespace Modbus

/-- What a reader can tell apart. -/
inductive Signal
  | octet (b : UInt8)
  | quiet
  deriving DecidableEq, Repr

namespace Signal

def octet? : Signal → Option UInt8
  | octet b => some b
  | quiet => none

def octets (signals : List Signal) : Octets := signals.filterMap octet?

/-- What follows the first `count` octets. Quiet behind the last of them is left in place. -/
def skip : Nat → List Signal → List Signal
  | 0, signals => signals
  | _ + 1, [] => []
  | count + 1, octet _ :: rest => skip count rest
  | count + 1, quiet :: rest => skip (count + 1) rest

def untilQuiet : List Signal → Octets
  | [] => []
  | octet b :: rest => b :: untilQuiet rest
  | quiet :: _ => []

@[simp] theorem octets_nil : octets [] = [] := rfl

@[simp] theorem octets_octet (b : UInt8) (rest : List Signal) :
    octets (octet b :: rest) = b :: octets rest := rfl

@[simp] theorem octets_quiet (rest : List Signal) : octets (quiet :: rest) = octets rest := rfl

@[simp] theorem octets_append (front back : List Signal) :
    octets (front ++ back) = octets front ++ octets back := List.filterMap_append

@[simp] theorem octets_map_octet (xs : Octets) : octets (xs.map octet) = xs := by
  induction xs with
  | nil => rfl
  | cons b xs ih => rw [List.map_cons, octets_octet, ih]

@[simp] theorem skip_zero (signals : List Signal) : skip 0 signals = signals := by
  rw [skip]

theorem octets_skip (count : Nat) (signals : List Signal) :
    octets (skip count signals) = (octets signals).drop count := by
  fun_induction skip count signals with
  | case1 => rfl
  | case2 => rfl
  | case3 count b rest ih => rw [ih, octets_octet, List.drop_succ_cons]
  | case4 count rest ih => rw [ih, octets_quiet]

theorem skip_skip (m n : Nat) (signals : List Signal) :
    skip m (skip n signals) = skip (n + m) signals := by
  fun_induction skip n signals with
  | case1 => rw [Nat.zero_add]
  | case2 n => cases m <;> simp [skip]
  | case3 n b rest ih => rw [ih, Nat.succ_add, skip]
  | case4 n rest ih => rw [ih, Nat.succ_add, skip]

theorem skip_map_octet {xs : Octets} (count : Nat) (h : count ≤ xs.length) (back : List Signal) :
    skip count (xs.map octet ++ back) = (xs.drop count).map octet ++ back := by
  induction xs generalizing count with
  | nil =>
    obtain rfl : count = 0 := by simpa using h
    exact skip_zero _
  | cons b xs ih =>
    cases count with
    | zero => exact skip_zero _
    | succ count => exact ih count (Nat.le_of_succ_le_succ h)

/-- Behind all octets of a stretch only its last silences are left. -/
theorem skip_append (front back : List Signal) :
    ∃ silences, skip (octets front).length (front ++ back) =
      List.replicate silences quiet ++ back := by
  induction front with
  | nil => exact ⟨0, skip_zero back⟩
  | cons s front ih =>
    obtain ⟨silences, h⟩ := ih
    cases s with
    | octet b => exact ⟨silences, by rw [octets_octet, List.length_cons, List.cons_append, skip, h]⟩
    | quiet =>
      cases hn : (octets front).length with
      | zero =>
        -- No octet is left to be skipped, so this silence stays too.
        rw [hn, skip_zero] at h
        refine ⟨silences + 1, ?_⟩
        rw [octets_quiet, hn, skip_zero, List.cons_append, h, List.replicate_succ,
          List.cons_append]
      | succ n =>
        rw [hn] at h
        exact ⟨silences, by rw [octets_quiet, hn, List.cons_append, skip, h]⟩

theorem untilQuiet_map_octet (xs : Octets) (back : List Signal) :
    untilQuiet (xs.map octet ++ back) = xs ++ untilQuiet back := by
  induction xs with
  | nil => rfl
  | cons b xs ih => rw [List.map_cons, List.cons_append, untilQuiet, ih, List.cons_append]

end Signal

open Signal

def Arrival.signals : Arrival → List Signal
  | .data octets => octets.map octet
  | .silence => [quiet]
  | .failure .. | .stall => []

def Arrival.IsSteady : Arrival → Prop
  | .data octets => octets ≠ []
  | .silence => True
  | .failure .. | .stall => False

instance : DecidablePred Arrival.IsSteady
  | .data octets => inferInstanceAs (Decidable (octets ≠ []))
  | .silence => inferInstanceAs (Decidable True)
  | .failure .. | .stall => inferInstanceAs (Decidable False)

namespace Line

def signals (line : Line) : List Signal := line.flatMap Arrival.signals

def Steady (line : Line) : Prop := ∀ a ∈ line, a.IsSteady

instance (line : Line) : Decidable line.Steady :=
  inferInstanceAs (Decidable (∀ a ∈ line, a.IsSteady))

@[simp] theorem signals_data (octets : Octets) (rest : Line) :
    signals (.data octets :: rest) = octets.map octet ++ signals rest := rfl

@[simp] theorem signals_silence (rest : Line) :
    signals (.silence :: rest) = quiet :: signals rest := rfl

theorem octets_signals (line : Line) : Signal.octets line.signals = line.octets := by
  induction line with
  | nil => rfl
  | cons a rest ih =>
    have split : Signal.octets a.signals = a.octets := by
      cases a <;> simp [Arrival.signals, Arrival.octets]
    rw [signals, List.flatMap_cons, octets_append, split]
    exact congrArg (a.octets ++ ·) ih

theorem octets_of_skip {line rest : Line} {count : Nat}
    (h : rest.signals = skip count line.signals) : rest.octets = line.octets.drop count := by
  rw [← octets_signals, h, octets_skip, octets_signals]

theorem steady_data {octets : Octets} {rest : Line} :
    Steady (.data octets :: rest) ↔ octets ≠ [] ∧ Steady rest := List.forall_mem_cons

theorem steady_silence {rest : Line} : Steady (.silence :: rest) ↔ Steady rest := by
  simp [Steady, Arrival.IsSteady]

theorem steady_pieces {pieces : List Octets} (h : ∀ piece ∈ pieces, piece ≠ []) :
    Steady (pieces.map .data) := by
  intro a ha
  obtain ⟨piece, hpiece, rfl⟩ := List.mem_map.1 ha
  exact h piece hpiece

theorem octets_pieces (pieces : List Octets) :
    octets (pieces.map .data) = pieces.flatten := by
  induction pieces with
  | nil => rfl
  | cons piece pieces ih => exact congrArg (piece ++ ·) ih

structure Yields (line : Line) (count : Nat) (result : Read Octets) : Prop where
  octets : result.1 = .ok (line.octets.take count)
  steady : result.2.Steady
  signals : result.2.signals = skip count line.signals

namespace Yields

variable {line : Line} {count : Nat} {result : Read Octets}

theorem andThen {β : Type} (h : line.Yields count result) (next : Octets → Line → Read β) :
    result.andThen next = next (line.octets.take count) result.2 := by
  obtain ⟨first, rest⟩ := result
  cases h.octets
  rfl

theorem octets_rest (h : line.Yields count result) :
    result.2.octets = line.octets.drop count := octets_of_skip h.signals

theorem of_silence {rest : Line} (h : rest.Yields count result) (hcount : count ≠ 0) :
    Yields (.silence :: rest) count result := by
  obtain ⟨n, rfl⟩ := Nat.exists_eq_succ_of_ne_zero hcount
  refine ⟨h.octets, h.steady, ?_⟩
  rw [h.signals, signals_silence, Nat.succ_eq_add_one, skip]

/-- A read that takes its octets from one arrival. -/
theorem of_data {octets : Octets} {rest : Line} (hrest : rest.Steady)
    (hcount : count ≤ octets.length) :
    Yields (.data octets :: rest) count (.ok (octets.take count),
      if octets.length ≤ count then rest else .data (octets.drop count) :: rest) := by
  constructor
  · simp [Line.octets, Arrival.octets, List.take_append_of_le_length hcount]
  · dsimp only
    split
    · exact hrest
    · next h => exact steady_data.2 ⟨by simpa using h, hrest⟩
  · rw [signals_data, skip_map_octet count hcount]
    dsimp only
    split
    · next h => rw [List.drop_eq_nil_of_le h, List.map_nil, List.nil_append]
    · rfl

/-- A read that takes a whole arrival and then goes on. -/
theorem after_data {octets : Octets} {rest : Line} (hcount : octets.length ≤ count)
    (h : rest.Yields (count - octets.length) result) :
    Yields (.data octets :: rest) count
      (result.andThen fun more rest => (.ok (octets ++ more), rest)) := by
  rw [h.andThen]
  refine ⟨?_, h.steady, ?_⟩
  · simp [Line.octets, Arrival.octets, List.take_append, List.take_of_length_le hcount]
  · have behind := skip_map_octet octets.length (Nat.le_refl _) rest.signals
    rw [List.drop_length, List.map_nil, List.nil_append] at behind
    rw [h.signals, signals_data, ← Nat.add_sub_of_le hcount, ← skip_skip, behind,
      Nat.add_sub_cancel_left]

end Yields

/-- Something is read as long as there is something to come. -/
theorem read_steady {limit : Nat} {line : Line} (hline : line.Steady) (hlimit : 0 < limit)
    (hne : line.octets ≠ []) :
    ∃ count, 0 < count ∧ count ≤ limit ∧ count ≤ line.octets.length ∧
      line.Yields count (line.read limit) := by
  fun_induction read limit line with
  | case1 => exact absurd rfl hne
  | case2 octets rest hle =>
    obtain ⟨hdata, hrest⟩ := steady_data.1 hline
    refine ⟨octets.length, List.length_pos_iff.2 hdata, hle,
      by simp [Line.octets, Arrival.octets], ?_⟩
    simpa using Yields.of_data hrest (Nat.le_refl octets.length)
  | case3 octets rest hlt =>
    obtain ⟨-, hrest⟩ := steady_data.1 hline
    have hle : limit ≤ octets.length := Nat.le_of_not_le hlt
    refine ⟨limit, hlimit, Nat.le_refl _, by simp [Line.octets, Arrival.octets]; omega, ?_⟩
    simpa [hlt] using Yields.of_data hrest hle
  | case4 rest ih =>
    obtain ⟨count, hpos, hle, hlen, h⟩ := ih (steady_silence.1 hline) hne
    exact ⟨count, hpos, hle, hlen, h.of_silence (Nat.ne_of_gt hpos)⟩
  | case5 fault text rest => exact (hline _ List.mem_cons_self).elim
  | case6 rest => exact (hline _ List.mem_cons_self).elim

theorem read_steady_end {limit : Nat} {line : Line} (hline : line.Steady)
    (hnil : line.octets = []) : line.read limit = (.ok [], []) := by
  fun_induction read limit line with
  | case1 => rfl
  | case2 octets rest | case3 octets rest =>
    exact absurd (List.append_eq_nil_iff.1 hnil).1 (steady_data.1 hline).1
  | case4 rest ih => exact ih (steady_silence.1 hline) hnil
  | case5 fault text rest => exact (hline _ List.mem_cons_self).elim
  | case6 rest => exact (hline _ List.mem_cons_self).elim

theorem readExact_steady (count : Nat) {line : Line} (hline : line.Steady)
    (hcount : count ≤ line.octets.length) : line.Yields count (line.readExact count) := by
  fun_induction readExact count line with
  | case1 line => exact ⟨by rw [List.take_zero], hline, (skip_zero _).symm⟩
  | case2 => exact absurd hcount (Nat.not_succ_le_zero _)
  | case3 count octets rest hempty =>
    exact absurd (List.eq_nil_of_length_eq_zero hempty) (steady_data.1 hline).1
  | case4 count octets rest hempty hle ih =>
    refine Yields.after_data hle (ih (steady_data.1 hline).2 ?_)
    simp only [Line.octets, List.flatMap_cons, Arrival.octets, List.length_append] at hcount ⊢
    omega
  | case5 count octets rest hempty hlt =>
    have hle : count + 1 ≤ octets.length := Nat.le_of_not_le hlt
    simpa [hlt] using Yields.of_data (steady_data.1 hline).2 hle
  | case6 count rest ih =>
    exact (ih (steady_silence.1 hline) hcount).of_silence (Nat.succ_ne_zero _)
  | case7 count fault text rest => exact (hline _ List.mem_cons_self).elim
  | case8 count rest => exact (hline _ List.mem_cons_self).elim

/-- On a line that ends too early all octets are read, and then the end is found. -/
theorem readExact_short {count : Nat} {line : Line} (hline : line.Steady)
    (hcount : line.octets.length < count) :
    line.readExact count = (.error (.failed .earlyEof), []) := by
  fun_induction readExact count line with
  | case1 => exact absurd hcount (Nat.not_lt_zero _)
  | case2 => rfl
  | case3 count octets rest hempty =>
    exact absurd (List.eq_nil_of_length_eq_zero hempty) (steady_data.1 hline).1
  | case4 count octets rest hempty hle ih =>
    have hrest : (Line.octets rest).length < count + 1 - octets.length := by
      simp only [Line.octets, List.flatMap_cons, Arrival.octets, List.length_append] at hcount ⊢
      omega
    rw [ih (steady_data.1 hline).2 hrest]
    rfl
  | case5 count octets rest hempty hlt =>
    simp only [Line.octets, List.flatMap_cons, Arrival.octets, List.length_append] at hcount
    omega
  | case6 count rest ih => exact ih (steady_silence.1 hline) hcount
  | case7 count fault text rest => exact (hline _ List.mem_cons_self).elim
  | case8 count rest => exact (hline _ List.mem_cons_self).elim

/-- A frame is begun with a read that may return less than asked for, and the rest of its first
`count` octets are then waited for. -/
theorem begin_steady {β : Type} (count : Nat) {line : Line} (hline : line.Steady)
    (hcount : count ≤ line.octets.length) (hpos : 0 < count)
    (next : Octets → Line → Read (Option β)) :
    ∃ rest : Line, rest.Steady ∧ rest.signals = skip count line.signals ∧
      ((line.read count).andThen fun first rest =>
        if first.isEmpty then (.ok none, rest)
        else (rest.readExact (count - first.length)).andThen fun more rest =>
          next (first ++ more) rest) = next (line.octets.take count) rest := by
  have hne : line.octets ≠ [] := List.length_pos_iff.1 (Nat.lt_of_lt_of_le hpos hcount)
  -- The first read stops wherever the arrival does, at `n`, and the second one takes it from there.
  obtain ⟨n, hn, hle, hlen, hread⟩ := read_steady hline hpos hne
  have hfirst : (line.octets.take n).length = n := List.length_take_of_le hlen
  have hexact := readExact_steady (count - n) hread.steady (by
    rw [hread.octets_rest, List.length_drop]
    omega)
  refine ⟨_, hexact.steady, ?_, ?_⟩
  · rw [hexact.signals, hread.signals, skip_skip, Nat.add_sub_of_le hle]
  · have hsome : (line.octets.take n).isEmpty = false := by
      rw [List.isEmpty_eq_false_iff, ← List.length_pos_iff, hfirst]
      exact hn
    rw [hread.andThen, hsome, if_neg Bool.false_ne_true, hfirst, hexact.andThen,
      hread.octets_rest, ← List.take_add, Nat.add_sub_of_le hle]

/-- A line that is quiet at first has an arrival for that. -/
theorem eq_silence_of_quiet {line : Line} (hline : line.Steady) {back : List Signal}
    (h : line.signals = quiet :: back) :
    ∃ rest : Line, line = .silence :: rest ∧ rest.Steady ∧ rest.signals = back := by
  match line with
  | .silence :: rest => exact ⟨rest, rfl, steady_silence.1 hline, (List.cons.inj h).2⟩
  | .data (b :: octets) :: rest => simp at h
  | .data [] :: rest => exact absurd rfl (steady_data.1 hline).1
  | .failure fault text :: rest => exact (hline _ List.mem_cons_self).elim
  | .stall :: rest => exact (hline _ List.mem_cons_self).elim

/-- A read that waits for no silence returns octets that arrive without silence between them, or
nothing where there are none before a silence or the end of the stream. -/
theorem readUntilQuiet_steady {limit : Nat} {line rest : Line} {result : Except Stop Octets}
    (hline : line.Steady) (hlimit : 0 < limit)
    (h : line.readUntilQuiet limit = (result, rest)) :
    ∃ xs : Octets, result = .ok xs ∧ rest.Steady ∧
      (xs ≠ [] ∧ xs.length ≤ limit ∧ line.signals = xs.map octet ++ rest.signals ∨
        xs = [] ∧ untilQuiet line.signals = [] ∧
          (line.signals = rest.signals ∨ line.signals = quiet :: rest.signals)) := by
  match line with
  | [] =>
    cases h
    exact ⟨[], rfl, hline, .inr ⟨rfl, rfl, .inl rfl⟩⟩
  | .silence :: line =>
    cases h
    exact ⟨[], rfl, steady_silence.1 hline, .inr ⟨rfl, rfl, .inr rfl⟩⟩
  | .data octets :: line =>
    obtain ⟨hne, hrest⟩ := steady_data.1 hline
    simp only [readUntilQuiet, read] at h
    split at h
    · next hle =>
      cases h
      exact ⟨octets, rfl, hrest, .inl ⟨hne, hle, signals_data _ _⟩⟩
    · next hlt =>
      cases h
      have hlong : limit < octets.length := Nat.lt_of_not_le hlt
      have htake : (octets.take limit).length = limit := List.length_take_of_le (Nat.le_of_lt hlong)
      refine ⟨octets.take limit, rfl, steady_data.2 ⟨?_, hrest⟩, .inl ⟨?_, ?_, ?_⟩⟩
      · rw [Ne, List.drop_eq_nil_iff]
        exact hlt
      · rw [← List.length_pos_iff, htake]
        exact hlimit
      · exact Nat.le_of_eq htake
      · rw [signals_data, signals_data, ← List.append_assoc, ← List.map_append,
          List.take_append_drop]
  | .failure fault text :: line => exact (hline _ List.mem_cons_self).elim
  | .stall :: line => exact (hline _ List.mem_cons_self).elim

end Line

end Modbus
