import Modbus.Proofs.Connection.Run
import Modbus.Proofs.Worker.Configured

namespace Modbus

/-! ### Clocks -/

theorem Time.after?_eq_none_iff {now : Time} {span : Duration} :
    after? now span = none ↔ limit ≤ now + span.nanoseconds := by
  unfold after?
  split
  · next h => simp [Nat.not_le_of_lt h]
  · next h => simp [Nat.le_of_not_lt h]

/-- What a clock shows: whole seconds, and the nanoseconds behind them. -/
structure ClockTime where
  seconds : Nat
  nanoseconds : Nat
  nanoseconds_lt : nanoseconds < 1000000000 := by omega

namespace ClockTime

def total (t : ClockTime) : Nat := t.seconds * 1000000000 + t.nanoseconds

def secondsLimit : Nat := Nat.pow 2 63

/-- Adds seconds to seconds and nanoseconds to nanoseconds, and then the second that they make. -/
def add? (t : ClockTime) (span : Duration) : Option ClockTime :=
  let seconds := t.seconds + span.nanoseconds / 1000000000
  let nanoseconds := t.nanoseconds + span.nanoseconds % 1000000000
  if seconds < secondsLimit then
    if h : nanoseconds < 1000000000 then some ⟨seconds, nanoseconds, h⟩
    else if seconds + 1 < secondsLimit then
      some ⟨seconds + 1, nanoseconds - 1000000000, by have := t.nanoseconds_lt; omega⟩
    else none
  else none

theorem add?_of_fits {t : ClockTime} {span : Duration}
    (h : t.total + span.nanoseconds < secondsLimit * 1000000000) :
    ∃ later, t.add? span = some later ∧ later.total = t.total + span.nanoseconds := by
  have ht := t.nanoseconds_lt
  unfold total at h ⊢
  have hseconds : t.seconds + span.nanoseconds / 1000000000 < secondsLimit := by omega
  by_cases hparts : t.nanoseconds + span.nanoseconds % 1000000000 < 1000000000
  · refine ⟨⟨_, _, hparts⟩, by rw [add?, if_pos hseconds, dif_pos hparts], ?_⟩
    dsimp only
    omega
  · -- the nanoseconds make a second, for which there is room in the total
    have hcarried : t.seconds + span.nanoseconds / 1000000000 + 1 < secondsLimit := by omega
    refine ⟨⟨t.seconds + span.nanoseconds / 1000000000 + 1,
      t.nanoseconds + span.nanoseconds % 1000000000 - 1000000000, by omega⟩,
      by rw [add?, if_pos hseconds, dif_neg hparts, if_pos hcarried], ?_⟩
    dsimp only
    omega

theorem add?_of_not_fits {t : ClockTime} {span : Duration}
    (h : ¬ t.total + span.nanoseconds < secondsLimit * 1000000000) : t.add? span = none := by
  have ht := t.nanoseconds_lt
  unfold total at h
  by_cases hseconds : t.seconds + span.nanoseconds / 1000000000 < secondsLimit
  · have hparts : ¬ t.nanoseconds + span.nanoseconds % 1000000000 < 1000000000 := by omega
    have hcarried : ¬ t.seconds + span.nanoseconds / 1000000000 + 1 < secondsLimit := by omega
    rw [add?, if_pos hseconds, dif_neg hparts, if_neg hcarried]
  · rw [add?, if_neg hseconds]

/-- Adding part by part is adding nanoseconds, and fits just when their number does. -/
theorem total_add? (t : ClockTime) (span : Duration) :
    (t.add? span).map total = Time.after? t.total span := by
  unfold Time.after?
  split
  · next h =>
    obtain ⟨later, hadd, htotal⟩ := add?_of_fits h
    rw [hadd, Option.map_some, htotal]
  · next h => rw [add?_of_not_fits h, Option.map_none]

theorem total_of_add? {t later : ClockTime} {span : Duration} (h : t.add? span = some later) :
    later.total = t.total + span.nanoseconds := by
  have htotal := t.total_add? span
  rw [h, Option.map_some] at htotal
  exact Time.eq_of_after? htotal.symm

theorem add?_eq_none_iff {t : ClockTime} {span : Duration} :
    t.add? span = none ↔ Time.limit ≤ t.total + span.nanoseconds := by
  rw [← Time.after?_eq_none_iff, ← total_add?, Option.map_eq_none_iff]

end ClockTime

/-! ### Settings -/

/-- Of accepted settings, the timeout of requests is not zero. -/
theorem Config.requestTimeout_pos {config : Config} (h : config.validate = .ok ()) :
    0 < config.requestTimeout.nanoseconds := by
  obtain ⟨_, -, h⟩ := Operation.bind_ok_iff.1 h
  obtain ⟨_, htimeout, -⟩ := Operation.bind_ok_iff.1 h
  unfold checkPositive Duration.isZero at htimeout
  apply Nat.pos_of_ne_zero
  intro hzero
  simp [hzero] at htimeout

/-! ### Connections -/

namespace Connection

variable {c : Connection} {schedule : Schedule}

/-- A request without a deadline ends the connection and does nothing else. -/
theorem exchange_overflow {m : Moment} (h : Time.after? m.now c.requestTimeout = none)
    (queued : Duration) (w : Worker) (sink : Sink) (request : Frame) :
    c.exchange m queued w sink request = ⟨w, sink, some .overflow, [], [], []⟩ := by
  rw [exchange, h]

/-- A request with a deadline does not end the connection for want of one, and is executed if the
connection goes on. -/
theorem exchange_deadline {m : Moment} {deadline : Time}
    (h : Time.after? m.now c.requestTimeout = some deadline)
    (queued : Duration) (w : Worker) (sink : Sink) (request : Frame) :
    let x := c.exchange m queued w sink request
    x.ending ≠ some .overflow ∧ (x.ending = none → x.executed = [request]) := by
  unfold exchange
  rw [h]
  dsimp only
  split
  · simp [timedOut]
  · split
    · simp
    · split
      · simp [timedOut]
      · split
        · split <;> simp
        · simp

/-- A connection that ends for want of a deadline had none to give to the request behind those that
it executed. -/
theorem no_deadline_of_overflow {served : Nat} {w : Worker} {line : Line} {sink : Sink}
    (h : (c.serveFrom schedule served w line sink).ending = .overflow) :
    Time.after? (schedule.submitted
        (served + (c.serveFrom schedule served w line sink).executed.length)).now
      c.requestTimeout = none := by
  fun_induction serveFrom c schedule served w line sink with
  | case1 | case2 | case3 | case4 => cases h
  | case5 served w _ sink _ rest _ frame _ _ x _ ending hending =>
    obtain rfl : ending = .overflow := h
    cases hdeadline : Time.after? (c.moment schedule served).now c.requestTimeout with
    | none =>
      have hx : x = ⟨w, sink, some .overflow, [], [], []⟩ := exchange_overflow hdeadline _ _ _ _
      rw [hx]
      exact hdeadline
    | some deadline =>
      exact absurd hending (exchange_deadline hdeadline (schedule.queued served) w sink frame).1
  | case6 served w _ sink _ rest _ frame _ _ x _ hending ih =>
    -- the connection went on, so the request was executed and counts as served for the rest
    cases hdeadline : Time.after? (c.moment schedule served).now c.requestTimeout with
    | none =>
      have hx : x = ⟨w, sink, some .overflow, [], [], []⟩ := exchange_overflow hdeadline _ _ _ _
      rw [hx] at hending
      cases hending
    | some deadline =>
      have hexecuted : x.executed = [frame] :=
        (exchange_deadline hdeadline (schedule.queued served) w sink frame).2 hending
      have hrest := ih h
      rw [prepend, hexecuted, List.singleton_append, List.length_cons, ← Nat.add_assoc,
        Nat.add_right_comm]
      exact hrest
  | case7 _ _ _ _ _ _ _ _ _ _ ih => exact ih h

/-- A frame that is to be executed comes in, behind others that are not. -/
inductive Meets (c : Connection) : Line → Prop
  | request {line rest : Line} {raw : Octets} {frame : Frame}
    (hread : c.framing.readFrame line = (.ok (some raw), rest))
    (hdecode : c.framing.decode raw = .ok frame)
    (hexecutes : c.framing.executes frame.unit = true) : Meets c line
  | foreign {line rest : Line} {raw : Octets} {frame : Frame}
    (hread : c.framing.readFrame line = (.ok (some raw), rest))
    (hdecode : c.framing.decode raw = .ok frame)
    (hskips : c.framing.executes frame.unit = false) (h : Meets c rest) : Meets c line

theorem not_meets {line : Line} (h : ∀ raw rest frame,
    c.framing.readFrame line = (.ok (some raw), rest) → c.framing.decode raw ≠ .ok frame) :
    ¬ c.Meets line := by
  rintro (⟨hread, hdecode, -⟩ | ⟨hread, hdecode, -, -⟩)
  · exact h _ _ _ hread hdecode
  · exact h _ _ _ hread hdecode

theorem meets_foreign {line rest : Line} {raw : Octets} {frame : Frame}
    (hread : c.framing.readFrame line = (.ok (some raw), rest))
    (hdecode : c.framing.decode raw = .ok frame)
    (hskips : c.framing.executes frame.unit = false) : c.Meets line ↔ c.Meets rest := by
  refine ⟨fun h => ?_, .foreign hread hdecode hskips⟩
  cases h with
  | request hread' hdecode' hexecutes =>
    rw [hread] at hread'
    cases hread'
    rw [hdecode] at hdecode'
    cases hdecode'
    rw [hskips] at hexecutes
    cases hexecutes
  | foreign hread' _ _ h =>
    rw [hread] at hread'
    cases hread'
    exact h

/-- Without a deadline for the first request, no request is executed and nothing is written. -/
theorem serveFrom_without_deadline {served : Nat}
    (h : Time.after? (schedule.submitted served).now c.requestTimeout = none)
    (w : Worker) (line : Line) (sink : Sink) :
    let v := c.serveFrom schedule served w line sink
    v.executed = [] ∧ v.worker = w ∧ v.sink = sink ∧ (v.ending = .overflow ↔ c.Meets line) := by
  fun_induction serveFrom c schedule served w line sink with
  | case1 _ _ _ _ _ hread | case2 _ _ _ _ _ hread | case3 _ _ _ _ _ _ hread =>
    refine ⟨rfl, rfl, rfl, iff_of_false nofun (not_meets fun raw rest frame hframe => ?_)⟩
    rw [hread] at hframe
    cases hframe
  | case4 _ _ _ _ _ _ hread e hdecode =>
    refine ⟨rfl, rfl, rfl, iff_of_false nofun (not_meets fun raw rest frame hframe => ?_)⟩
    rw [hread] at hframe
    cases hframe
    rw [hdecode]
    exact nofun
  | case5 served w line sink raw rest hread frame hdecode hexecutes x events ending hending =>
    have hx : x = ⟨w, sink, some .overflow, [], [], []⟩ :=
      exchange_overflow (m := c.moment schedule served) h _ _ _ _
    rw [hx] at hending
    obtain rfl : Ending.overflow = ending := Option.some.inj hending
    refine ⟨?_, ?_, ?_, iff_of_true rfl (.request hread hdecode hexecutes)⟩
    · change x.executed ++ [] = []
      rw [hx]
      rfl
    · change x.worker = w
      rw [hx]
    · change x.sink = sink
      rw [hx]
  | case6 served w line sink raw rest hread frame hdecode hexecutes x events hending =>
    have hx : x = ⟨w, sink, some .overflow, [], [], []⟩ :=
      exchange_overflow (m := c.moment schedule served) h _ _ _ _
    rw [hx] at hending
    cases hending
  | case7 served w line sink raw rest hread frame hdecode hskips ih =>
    obtain ⟨hexecuted, hworker, hsink, hmeets⟩ := ih h
    rw [Bool.not_eq_true] at hskips
    exact ⟨hexecuted, hworker, hsink, hmeets.trans (meets_foreign hread hdecode hskips).symm⟩

/-- Under accepted settings, a deadline is ahead of its request, if the clock can show it. As long
as it can, no connection ends for want of a deadline. If it cannot for the first request, the
connection ends with this request, and executes and writes nothing. -/
theorem serve_deadlines {config : Config} (h : config.validate = .ok ()) {c : Connection}
    (hc : c.requestTimeout = config.requestTimeout) (schedule : Schedule) (w : Worker) (line : Line)
    (sink : Sink) :
    let timeout := config.requestTimeout
    let v := c.serve schedule w line sink
    (∀ now : ClockTime,
      (now.add? timeout).map ClockTime.total = Time.after? now.total timeout ∧
      (now.add? timeout = none ↔ Time.limit ≤ now.total + timeout.nanoseconds) ∧
      ∀ deadline, now.add? timeout = some deadline → now.total < deadline.total) ∧
    ((∀ i, (schedule.submitted i).now + timeout.nanoseconds < Time.limit) →
      v.ending ≠ .overflow) ∧
    (Time.limit ≤ (schedule.submitted 0).now + timeout.nanoseconds →
      v.executed = [] ∧ v.worker = w ∧ v.sink = sink ∧ (v.ending = .overflow ↔ c.Meets line)) := by
  intro timeout v
  have hpos : 0 < timeout.nanoseconds := Config.requestTimeout_pos h
  refine ⟨fun now => ⟨now.total_add? timeout, now.add?_eq_none_iff, fun deadline hadd => ?_⟩,
    fun hfits hending => ?_, fun hlimit => ?_⟩
  · have htotal := ClockTime.total_of_add? hadd
    omega
  · have hnone := no_deadline_of_overflow hending
    rw [hc] at hnone
    exact absurd (hfits _) (Nat.not_lt.2 (Time.after?_eq_none_iff.1 hnone))
  · apply serveFrom_without_deadline
    rw [hc]
    exact Time.after?_eq_none_iff.2 hlimit

/-- A timeout with which a request at time 0 has the last deadline of all, and one at time 1 has
none. -/
theorem serve_deadlines_last :
    let config : Config := { requestTimeout := ⟨Time.limit - 1⟩ }
    let c : Connection :=
      { session := { transport := .rtu, token := 0 }, framing := .rtu (some 17),
        requestTimeout := config.requestTimeout }
    let line : Line := [.data (Frame.rtu 17 3 [0, 0, 0, 2]).encode, .silence]
    let v (now : Time) := c.serve (.idle (.quiet now)) .small line .eager
    config.validate = .ok () ∧ (v 0).ending ≠ .overflow ∧ (v 1).ending = .overflow ∧
      (v 1).executed = [] := by
  intro config c line v
  have haccepted : config.validate = .ok () := rfl
  have hread : c.framing.readFrame line =
      (.ok (some (Frame.rtu 17 3 [0, 0, 0, 2]).encode), [.silence]) := rfl
  have hmeets : c.Meets line := .request hread (Frame.decodeRtu_encode 17 3 [0, 0, 0, 2]) rfl
  have hdeadlines (now : Time) :=
    serve_deadlines haccepted (c := c) rfl (.idle (.quiet now)) .small line .eager
  obtain ⟨-, hfits, -⟩ := hdeadlines 0
  obtain ⟨-, -, hlimit⟩ := hdeadlines 1
  obtain ⟨hexecuted, -, -, hoverflow⟩ := hlimit (by decide)
  have hlast (i : Nat) :
      ((Schedule.idle (.quiet 0)).submitted i).now + (Time.limit - 1) < Time.limit := by
    change 0 + (Time.limit - 1) < Time.limit
    decide
  exact ⟨haccepted, hfits hlast, hoverflow.2 hmeets, hexecuted⟩

/-- The longest timeout there is passes for a setting, and no request survives it. -/
theorem endless_timeout_overflows :
    let config : Config :=
      { bankSize := 16, requestTimeout := ⟨(Nat.pow 2 64 - 1) * 1000000000 + 999999999⟩ }
    let c : Connection :=
      { session := { transport := .rtu, token := 0 }, framing := .rtu (some 17),
        requestTimeout := config.requestTimeout }
    let line : Line := [.data (Frame.rtu 17 3 [0, 0, 0, 2]).encode, .silence]
    let v := c.serve (.idle (.quiet 0)) .small line .eager
    config.validate = .ok () ∧ (⟨0, 0, by decide⟩ : ClockTime).add? config.requestTimeout = none ∧
      v.ending = .overflow ∧ v.executed = [] ∧ v.sink.flushed = [] := by
  intro config c line v
  have hread : c.framing.readFrame line =
      (.ok (some (Frame.rtu 17 3 [0, 0, 0, 2]).encode), [.silence]) := rfl
  have hmeets : c.Meets line := .request hread (Frame.decodeRtu_encode 17 3 [0, 0, 0, 2]) rfl
  let schedule : Schedule := .idle (.quiet 0)
  have hnone : Time.after? (schedule.submitted 0).now c.requestTimeout = none :=
    Time.after?_eq_none_iff.2 (by decide)
  obtain ⟨hexecuted, -, hsink, hoverflow⟩ := serveFrom_without_deadline hnone .small line .eager
  refine ⟨rfl, ClockTime.add?_eq_none_iff.2 (by decide), hoverflow.2 hmeets, hexecuted, ?_⟩
  exact congrArg Sink.flushed hsink

end Connection

end Modbus
