import Modbus.Line

namespace Modbus.Line

/-- The octets are the next ones on the line, cut in any way and with silence anywhere between them,
and `rest` is what follows them. Nothing but octets and silence is passed over. -/
inductive Brings : Line → Octets → Line → Prop
  | nothing (line : Line) : Brings line [] line
  | silence {line rest : Line} {xs : Octets} (h : Brings line xs rest) :
    Brings (.silence :: line) xs rest
  | whole {line rest : Line} {octets xs : Octets} (hne : octets ≠ []) (h : Brings line xs rest) :
    Brings (.data octets :: line) (octets ++ xs) rest
  | part {octets front back : Octets} (hcut : front ++ back = octets) (hback : back ≠ [])
    (line : Line) : Brings (.data octets :: line) front (.data back :: line)

/-- A read finds the stream ended: nothing is left, or an arrival comes without octets. -/
inductive Ends : Line → Line → Prop
  | done : Ends [] []
  | empty (rest : Line) : Ends (.data [] :: rest) rest

/-- A read finds a failure, which it takes, or waits in vain. -/
inductive Breaks : Line → Stop → Line → Prop
  | failure (fault : StreamFault) (text : String) (rest : Line) :
    Breaks (.failure fault text :: rest) (.failed (.stream fault text)) rest
  | stall (rest : Line) : Breaks (.stall :: rest) .stalled (.stall :: rest)

namespace Brings

/-- All of one arrival. -/
theorem arrival {octets : Octets} (hne : octets ≠ []) (rest : Line) :
    Brings (.data octets :: rest) octets rest := by
  have h := Brings.whole hne (.nothing rest)
  rwa [List.append_nil] at h

theorem trans {line mid rest : Line} {xs ys : Octets} (h : Brings line xs mid)
    (h' : Brings mid ys rest) : Brings line (xs ++ ys) rest := by
  induction h with
  | nothing line => exact h'
  | silence _ ih => exact .silence (ih h')
  | whole hne _ ih =>
    rw [List.append_assoc]
    exact .whole hne (ih h')
  | @part octets front back hcut hback line =>
    -- The second stretch begins in the middle of an arrival.
    cases h' with
    | nothing =>
      rw [List.append_nil]
      exact .part hcut hback line
    | whole _ h' =>
      rw [← List.append_assoc, hcut]
      refine .whole ?_ h'
      rintro rfl
      exact hback (List.append_eq_nil_iff.1 hcut).2
    | @part _ front' back' hcut' hback' =>
      exact .part (by rw [List.append_assoc, hcut', hcut]) hback' line

/-- What was on the line is what was brought and what is left. -/
theorem octets {line rest : Line} {xs : Octets} (h : Brings line xs rest) :
    line.octets = xs ++ rest.octets := by
  induction h with
  | nothing => rfl
  | silence _ ih => exact ih
  | @whole line rest octets xs hne _ ih =>
    change octets ++ line.octets = _
    rw [ih, List.append_assoc]
  | @part octets front back hcut hback line =>
    change octets ++ line.octets = front ++ (back ++ line.octets)
    rw [← hcut, List.append_assoc]

end Brings

/-! ### Reads -/

theorem Read.andThen_ok {α β : Type} {r : Read α} {next : α → Line → Read β} {b : β} {rest : Line}
    (h : r.andThen next = (.ok b, rest)) :
    ∃ a line, r = (.ok a, line) ∧ next a line = (.ok b, rest) := by
  obtain ⟨_ | a, line⟩ := r
  · cases h
  · exact ⟨a, line, rfl, h⟩

theorem Read.andThen_error {α β : Type} {r : Read α} {next : α → Line → Read β} {stop : Stop}
    {rest : Line} (h : r.andThen next = (.error stop, rest)) :
    r = (.error stop, rest) ∨ ∃ a line, r = (.ok a, line) ∧ next a line = (.error stop, rest) := by
  obtain ⟨_ | a, line⟩ := r
  · cases h
    exact .inl rfl
  · exact .inr ⟨a, line, rfl, h⟩

variable {line rest : Line}

/-- A read that returns nothing has found the end of the stream. -/
theorem read_ok {limit : Nat} (hlimit : 0 < limit) {xs : Octets}
    (h : line.read limit = (.ok xs, rest)) :
    (xs ≠ [] ∧ xs.length ≤ limit ∧ line.Brings xs rest) ∨
      xs = [] ∧ ∃ behind : Line, line.Brings [] behind ∧ behind.Ends rest := by
  fun_induction read limit line with
  | case1 =>
    cases h
    exact .inr ⟨rfl, [], .nothing [], .done⟩
  | case2 octets left hle =>
    cases h
    by_cases hnil : xs = []
    · subst hnil
      exact .inr ⟨rfl, _, .nothing _, .empty rest⟩
    · exact .inl ⟨hnil, hle, .arrival hnil rest⟩
  | case3 octets left hlt =>
    cases h
    have hlong : limit < octets.length := Nat.lt_of_not_le hlt
    refine .inl ⟨?_, List.length_take_le limit octets,
      .part (List.take_append_drop limit octets) ?_ left⟩
    · rw [Ne, List.take_eq_nil_iff]
      rintro (rfl | rfl)
      · exact Nat.lt_irrefl 0 hlimit
      · exact Nat.not_lt_zero _ hlong
    · rw [Ne, List.drop_eq_nil_iff]
      exact hlt
  | case4 left ih =>
    obtain ⟨hne, hle, hbrings⟩ | ⟨hnil, behind, hbrings, hends⟩ := ih h
    · exact .inl ⟨hne, hle, .silence hbrings⟩
    · exact .inr ⟨hnil, behind, .silence hbrings, hends⟩
  | case5 => cases h
  | case6 => cases h

theorem read_error {limit : Nat} {stop : Stop} (h : line.read limit = (.error stop, rest)) :
    ∃ behind : Line, line.Brings [] behind ∧ behind.Breaks stop rest := by
  fun_induction read limit line with
  | case1 => cases h
  | case2 => cases h
  | case3 => cases h
  | case4 left ih =>
    obtain ⟨behind, hbrings, hbreaks⟩ := ih h
    exact ⟨behind, .silence hbrings, hbreaks⟩
  | case5 fault text left =>
    cases h
    exact ⟨_, .nothing _, .failure fault text rest⟩
  | case6 left =>
    cases h
    exact ⟨_, .nothing _, .stall left⟩

theorem readExact_ok {count : Nat} {xs : Octets} (h : line.readExact count = (.ok xs, rest)) :
    xs.length = count ∧ line.Brings xs rest := by
  fun_induction readExact count line generalizing xs with
  | case1 line =>
    cases h
    exact ⟨rfl, .nothing _⟩
  | case2 => cases h
  | case3 => cases h
  | case4 count octets left hne hle ih =>
    obtain ⟨more, behind, hmore, hdone⟩ := Read.andThen_ok h
    cases hdone
    obtain ⟨hlength, hbrings⟩ := ih hmore
    refine ⟨?_, .whole (mt List.length_eq_zero_iff.2 hne) hbrings⟩
    rw [List.length_append, hlength, Nat.add_sub_of_le hle]
  | case5 count octets left hne hlt =>
    cases h
    have hlong : count + 1 < octets.length := Nat.lt_of_not_le hlt
    refine ⟨List.length_take_of_le (Nat.le_of_lt hlong),
      .part (List.take_append_drop _ octets) ?_ left⟩
    rw [Ne, List.drop_eq_nil_iff]
    exact hlt
  | case6 count left ih =>
    obtain ⟨hlength, hbrings⟩ := ih h
    exact ⟨hlength, .silence hbrings⟩
  | case7 => cases h
  | case8 => cases h

/-- A read that stops has taken fewer octets than it waits for. -/
theorem readExact_error {count : Nat} {stop : Stop}
    (h : line.readExact count = (.error stop, rest)) :
    ∃ (xs : Octets) (behind : Line), xs.length < count ∧ line.Brings xs behind ∧
      (stop = .failed .earlyEof ∧ behind.Ends rest ∨ behind.Breaks stop rest) := by
  fun_induction readExact count line with
  | case1 => cases h
  | case2 count =>
    cases h
    exact ⟨[], [], Nat.succ_pos _, .nothing _, .inl ⟨rfl, .done⟩⟩
  | case3 count octets left hempty =>
    cases h
    obtain rfl := List.length_eq_zero_iff.1 hempty
    exact ⟨[], _, Nat.succ_pos _, .nothing _, .inl ⟨rfl, .empty rest⟩⟩
  | case4 count octets left hne hle ih =>
    obtain hstop | ⟨more, behind, -, hdone⟩ := Read.andThen_error h
    · obtain ⟨xs, behind, hshort, hbrings, hwhy⟩ := ih hstop
      refine ⟨octets ++ xs, behind, ?_, .whole (mt List.length_eq_zero_iff.2 hne) hbrings, hwhy⟩
      rw [List.length_append]
      omega
    · cases hdone
  | case5 => cases h
  | case6 count left ih =>
    obtain ⟨xs, behind, hshort, hbrings, hwhy⟩ := ih h
    exact ⟨xs, behind, hshort, .silence hbrings, hwhy⟩
  | case7 count fault text left =>
    cases h
    exact ⟨[], _, Nat.succ_pos _, .nothing _, .inr (.failure fault text rest)⟩
  | case8 count left =>
    cases h
    exact ⟨[], _, Nat.succ_pos _, .nothing _, .inr (.stall left)⟩

end Modbus.Line
