import Modbus.Proofs.Connection.Run
import Modbus.Proofs.Framing.Mbap

namespace Modbus

open Line

def Mbap.IsRequest (f : Frame) : Prop :=
  ∃ transaction unit function payload,
    f = .tcp transaction unit function payload ∧ payload.length ≤ 252

theorem Framing.carries_mbap {line : Line} {requests : List Frame} (hline : line.Steady)
    (hrequests : ∀ r ∈ requests, Mbap.IsRequest r)
    (h : line.octets = requests.flatMap Frame.encode) : Framing.mbap.Carries line requests := by
  induction requests generalizing line with
  | nil => exact .done (Mbap.readFrame_steady_end hline h)
  | cons r requests ih =>
    obtain ⟨hr, hmoreRequests⟩ := List.forall_mem_cons.1 hrequests
    obtain ⟨transaction, unit, function, payload, rfl, hpayload⟩ := hr
    obtain ⟨rest, hrest, hmore, hread⟩ := Mbap.readFrame_encode hline hpayload h
    exact .next hread (Frame.decodeTcp_encode _ _ _ (Nat.le_trans hpayload (by decide)))
      (ih hrest hmoreRequests hmore)

namespace Connection

variable {c : Connection}

theorem executed_mbap (hc : c.framing = .mbap) (frames : List Frame) :
    c.executed frames = frames := by
  rw [executed, hc]
  exact List.filter_eq_self.2 fun _ _ => rfl

theorem messages_mbap (hc : c.framing = .mbap) (turns : List Turn) :
    c.messages turns = turns.map (·.response.encode) := by
  rw [messages, hc]
  exact congrArg _ (List.filter_eq_self.2 fun _ _ => rfl)

/-- Every request is answered, in order, by what the worker makes of it after those before it, and
nothing else is written. -/
theorem serve_stream (hc : c.framing = .mbap) (schedule : Schedule) (w : Worker)
    (requests : List Frame) (hrequests : ∀ r ∈ requests, Mbap.IsRequest r)
    (pieces : List Octets) (hpieces : ∀ piece ∈ pieces, piece ≠ [])
    (hcut : pieces.flatten = requests.flatMap Frame.encode) (pattern : Nat → Nat → Nat → Uptake)
    (flushFault : Nat → Nat → Option (StreamFault × String))
    (htakes : Sink.Takes { pattern, flushFault })
    (hprompt : c.Prompt schedule 0 (w.turns (c.calls schedule 0 requests))) :
    let turns := w.turns (c.calls schedule 0 requests)
    let v := c.serve schedule w (pieces.map .data) { pattern, flushFault }
    v.sink.flushed = turns.map (·.response.encode) ∧ v.sink.pending = [] ∧
      v.sink.taken = (turns.flatMap (·.response.encode)).length ∧
      v.worker = w.afterAll (c.calls schedule 0 requests) ∧ v.executed = requests ∧
      v.line = [] ∧ v.ending = .closed ∧ v.ending.cancels = true := by
  have hcarries : c.framing.Carries (pieces.map .data) requests := by
    rw [hc]
    exact Framing.carries_mbap (steady_pieces hpieces) hrequests ((octets_pieces _).trans hcut)
  have hserves := serveFrom_carries hcarries htakes rfl (by rwa [executed_mbap hc])
  rw [executed_mbap hc] at hserves
  have hsends := hserves.sink
  rw [messages_mbap hc] at hsends
  refine ⟨hsends.flushed, hsends.pending, ?_, hserves.worker, hserves.executed, hserves.line,
    hserves.ending, ?_⟩
  · exact hsends.taken.trans (by rw [Nat.zero_add, ← List.flatMap_def])
  · exact congrArg Ending.cancels hserves.ending

/-- A register is written and read back, over a stream that is cut inside both requests. -/
theorem serve_stream_write_read :
    let c : Connection :=
      { session := { transport := .tcp, token := 0 }, framing := .mbap, requestTimeout := ⟨1000⟩ }
    let v := c.serve (.idle (.quiet 0)) .small
      [.data [0, 1, 0], .data [0, 0, 6, 1, 6, 0, 2, 0, 99, 0, 2], .data [0, 0, 0, 6, 1, 3],
        .data [0, 1, 0, 2]] { pattern := fun _ _ _ => .upTo 2 }
    v.sink.flushed =
        [[0, 1, 0, 0, 0, 6, 1, 6, 0, 2, 0, 99], [0, 2, 0, 0, 0, 7, 1, 3, 4, 0, 0, 0, 99]] ∧
      v.ending = .closed := by
  intro c v
  have hrequests : ∀ r ∈ [Frame.tcp 1 1 6 [0, 2, 0, 99], .tcp 2 1 3 [0, 1, 0, 2]],
      Mbap.IsRequest r := by
    simp only [List.forall_mem_cons]
    exact ⟨⟨_, _, _, _, rfl, by decide⟩, ⟨_, _, _, _, rfl, by decide⟩, by simp⟩
  have hprompt : c.Prompt (.idle (.quiet 0)) 0 (Worker.small.turns (c.calls (.idle (.quiet 0)) 0
      [.tcp 1 1 6 [0, 2, 0, 99], .tcp 2 1 3 [0, 1, 0, 2]])) :=
    prompt_cons.2 ⟨⟨1000, by decide +kernel, by decide +kernel⟩,
      prompt_cons.2 ⟨⟨1000, by decide +kernel, by decide +kernel⟩, prompt_nil⟩⟩
  have h := serve_stream rfl (.idle (.quiet 0)) .small _ hrequests
    [[0, 1, 0], [0, 0, 6, 1, 6, 0, 2, 0, 99, 0, 2], [0, 0, 0, 6, 1, 3], [0, 1, 0, 2]] (by decide)
    (by decide) (fun _ _ _ => .upTo 2) (fun _ _ => none)
    (Sink.takes_slow 1) hprompt
  exact ⟨h.1.trans (by decide +kernel), h.2.2.2.2.2.2.1⟩

end Connection

end Modbus
