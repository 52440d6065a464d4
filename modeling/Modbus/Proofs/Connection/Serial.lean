import Modbus.Proofs.Connection.Run
import Modbus.Proofs.Framing.Rtu

namespace Modbus

open Line Signal

namespace Framing

/-- Silence in front of a frame is passed over. -/
theorem Carries.of_silence {f : Framing} {line : Line} {frames : List Frame}
    (h : f.Carries line frames) : f.Carries (.silence :: line) frames := by
  have hsame : f.readFrame (.silence :: line) = f.readFrame line := by cases f <;> rfl
  cases h with
  | done hread => exact .done (hsame.trans hread)
  | next hread hdecode hrest => exact .next (hsame.trans hread) hdecode hrest

theorem Carries.of_quiet {f : Framing} {frames : List Frame} {back : List Signal} (n : Nat)
    (h : ∀ line : Line, line.Steady → line.signals = back → f.Carries line frames) {line : Line}
    (hline : line.Steady) (hsignals : line.signals = List.replicate n quiet ++ back) :
    f.Carries line frames := by
  induction n generalizing line with
  | zero => exact h line hline hsignals
  | succ n ih =>
    obtain ⟨rest, rfl, hrest, hback⟩ := eq_silence_of_quiet hline hsignals
    exact (ih hrest hback).of_silence

theorem carries_rtu (own : Option UInt8) {signals : List Signal} {frames : List Frame}
    (h : Rtu.Carries signals frames) (hrequests : ∀ f ∈ frames, Rtu.IsRequest f) {line : Line}
    (hline : line.Steady) (hsignals : line.signals = signals) :
    (Framing.rtu own).Carries line frames := by
  induction h generalizing line with
  | done =>
    refine .done (Rtu.readFrame_steady_end hline ?_)
    rw [← octets_signals, hsignals, octets_nil]
  | silence h ih => exact .of_quiet 1 (fun _ => ih hrequests) hline hsignals
  | @standard front back f frames hcode hfront h ih =>
    obtain ⟨hf, hframes⟩ := List.forall_mem_cons.1 hrequests
    have hoctets : line.octets = f.encode ++ Signal.octets back := by
      rw [← octets_signals, hsignals, octets_append, hfront]
    obtain ⟨rest, hrest, hskip, hread⟩ := Rtu.readFrame_standard hline hf hcode hoctets
    obtain ⟨n, hquiet⟩ := skip_append front back
    rw [hfront] at hquiet
    exact .next hread (Rtu.IsRequest.decode hf)
      (.of_quiet n (fun _ => ih hframes) hrest (by rw [hskip, hsignals, hquiet]))
  | @other back f frames hcode h ih =>
    obtain ⟨hf, hframes⟩ := List.forall_mem_cons.1 hrequests
    obtain ⟨rest, hrest, hback, hread⟩ := Rtu.readFrame_other hline hf hcode hsignals
    refine .next hread (Rtu.IsRequest.decode hf) ?_
    rcases hback with hback | hback
    · exact ih hframes hrest hback
    · exact .of_quiet 1 (fun _ => ih hframes) hrest hback

end Framing

namespace Connection

variable {c : Connection} {own : Option UInt8}

theorem executed_rtu (hc : c.framing = .rtu own) (frames : List Frame) :
    c.executed frames =
      frames.filter fun f => own.all fun unit => f.unit == unit || f.unit == 0 := by
  rw [executed, hc]
  cases own <;> rfl

theorem messages_rtu (hc : c.framing = .rtu own) (turns : List Turn) :
    c.messages turns = (turns.filter (·.request.unit != 0)).map (·.response.encode) := by
  rw [messages, hc]
  rfl

/-- The frames for the own unit and the broadcasts are executed in order, and nothing else is. The
answers to all but the broadcasts are written, and nothing else is. -/
theorem serve_serial_line (hc : c.framing = .rtu own) (schedule : Schedule) (w : Worker)
    (frames : List Frame) (hrequests : ∀ f ∈ frames, Rtu.IsRequest f) (line : Line)
    (hline : line.Steady) (hcarries : Rtu.Carries line.signals frames)
    (pattern : Nat → Nat → Nat → Uptake)
    (flushFault : Nat → Nat → Option (StreamFault × String))
    (htakes : Sink.Takes { pattern, flushFault }) :
    let requests := frames.filter fun f => own.all fun unit => f.unit == unit || f.unit == 0
    let turns := w.turns (c.calls schedule 0 requests)
    let answered := turns.filter (·.request.unit != 0)
    let v := c.serve schedule w line { pattern, flushFault }
    c.Prompt schedule 0 turns →
      v.executed = requests ∧ v.worker = w.afterAll (c.calls schedule 0 requests) ∧
        v.sink.flushed = answered.map (·.response.encode) ∧ v.sink.pending = [] ∧
        v.sink.taken = (answered.flatMap (·.response.encode)).length ∧
        v.line = [] ∧ v.ending = .closed := by
  intro requests turns answered v hprompt
  have hframes : c.framing.Carries line frames := by
    rw [hc]
    exact Framing.carries_rtu own hcarries hrequests hline rfl
  have hserves := serveFrom_carries hframes htakes rfl (by rwa [executed_rtu hc])
  rw [executed_rtu hc] at hserves
  have hsends := hserves.sink
  rw [messages_rtu hc] at hsends
  refine ⟨hserves.executed, hserves.worker, hsends.flushed, hsends.pending, ?_, hserves.line,
    hserves.ending⟩
  exact hsends.taken.trans (by rw [Nat.zero_add, ← List.flatMap_def])

/-- A write for another unit, an unknown function, a broadcast and a read, torn by a silence. -/
theorem serve_serial_line_shared :
    let c : Connection :=
      { session := { transport := .rtu, token := 0 }, framing := .rtu (some 17),
        requestTimeout := ⟨1000⟩ }
    let foreign := Frame.rtu 34 6 [0, 0, 0, 5]
    let unknown := Frame.rtu 17 0x41 [1, 2, 3]
    let broadcast := Frame.rtu 0 16 [0, 1, 0, 1, 2, 0, 7]
    let own := Frame.rtu 17 3 [0, 0, 0, 2]
    let line : Line := [.data (foreign.encode.take 5), .silence,
      .data (foreign.encode.drop 5 ++ unknown.encode.take 1), .data (unknown.encode.drop 1),
      .silence, .data (broadcast.encode ++ own.encode)]
    let v := c.serve (.idle (.quiet 0)) .small line { pattern := fun _ _ _ => .upTo 2 }
    v.executed = [unknown, broadcast, own] ∧
      v.sink.flushed =
        [(Frame.rtu 17 0xC1 [1]).encode, (Frame.rtu 17 3 [4, 0, 0, 0, 7]).encode] := by
  intro c foreign unknown broadcast own line v
  have hrequests : ∀ f ∈ [foreign, unknown, broadcast, own], Rtu.IsRequest f := by
    simp only [List.forall_mem_cons]
    exact ⟨.fixed (by decide) rfl, .other (by decide) (by decide +kernel),
      show Rtu.IsRequest (.rtu 0 16 ([0, 1, 0, 1] ++ 2 :: [0, 7])) from .counted (.inr rfl) rfl rfl,
      .fixed (by decide) rfl, by simp⟩
  have hcarries : Rtu.Carries (((foreign.encode.take 5).map octet ++ quiet ::
      (foreign.encode.drop 5).map octet) ++ (unknown.encode.map octet ++ quiet ::
        (broadcast.encode.map octet ++ (own.encode.map octet ++ []))))
      [foreign, unknown, broadcast, own] :=
    .standard (by decide) (by decide +kernel) (.other (by decide)
      (.standard (by decide) (by decide +kernel) (.standard (by decide) (by decide +kernel) .done)))
  have hprompt : c.Prompt (.idle (.quiet 0)) 0
      (Worker.small.turns (c.calls (.idle (.quiet 0)) 0 [unknown, broadcast, own])) :=
    prompt_cons.2 ⟨⟨1000, by decide +kernel, by decide +kernel⟩,
      prompt_cons.2 ⟨⟨1000, by decide +kernel, by decide +kernel⟩,
      prompt_cons.2 ⟨⟨1000, by decide +kernel, by decide +kernel⟩, prompt_nil⟩⟩⟩
  have hc : c.framing = .rtu (some 17) := rfl
  have h := serve_serial_line hc (.idle (.quiet 0)) .small _ hrequests line (by decide +kernel)
    (by exact hcarries) (fun _ _ _ => .upTo 2) (fun _ _ => none)
    (Sink.takes_slow 1) hprompt
  exact ⟨h.1.trans (by decide +kernel), h.2.2.1.trans (by decide +kernel)⟩

end Connection

end Modbus
