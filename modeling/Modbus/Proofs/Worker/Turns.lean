import Modbus.Worker

namespace Modbus

structure Call where
  moment : Moment
  context : RequestContext
  request : Frame

structure Turn where
  call : Call
  handling : Worker.Handling

namespace Turn

def request (t : Turn) : Frame := t.call.request

def response (t : Turn) : Frame := t.handling.response

end Turn

namespace Worker

def turn (w : Worker) (call : Call) : Turn :=
  ⟨call, w.handle call.moment call.context call.request⟩

def after (w : Worker) (call : Call) : Worker := { w with state := (w.turn call).handling.state }

def afterAll (w : Worker) (calls : List Call) : Worker := calls.foldl after w

def turns (w : Worker) : List Call → List Turn
  | [] => []
  | call :: calls => w.turn call :: (w.after call).turns calls

/-- Four registers of each kind, and the standard functions. -/
def small : Worker :=
  { state := { registers := .blank 4, limits := {} }, table := .standard, budget := .ofSeconds 1 }

variable (w : Worker)

@[simp] theorem afterAll_cons (call : Call) (calls : List Call) :
    w.afterAll (call :: calls) = (w.after call).afterAll calls := rfl

theorem afterAll_concat (calls : List Call) (call : Call) :
    w.afterAll (calls ++ [call]) = (w.afterAll calls).after call := by
  rw [afterAll, List.foldl_append]
  rfl

/-- Each turn is the call at its place, after those before it. -/
theorem getElem?_turns (calls : List Call) (i : Nat) :
    (w.turns calls)[i]? = calls[i]?.map (w.afterAll (calls.take i)).turn := by
  induction calls generalizing w i with
  | nil => rfl
  | cons call calls ih =>
    cases i with
    | zero => rfl
    | succ i =>
      rw [turns, List.getElem?_cons_succ, ih, List.getElem?_cons_succ, List.take_succ_cons,
        afterAll_cons]

theorem table_afterAll (calls : List Call) : (w.afterAll calls).table = w.table := by
  induction calls generalizing w with
  | nil => rfl
  | cons call calls ih => exact ih (w.after call)

theorem length_turns (calls : List Call) :
    (w.turns calls).length = calls.length := by
  induction calls generalizing w with
  | nil => rfl
  | cons call calls ih => exact congrArg (· + 1) (ih (w.after call))

/-- What holds of every turn of a worker holds of all turns in a row. -/
theorem forall_turns {w : Worker} {P : Turn → Prop} {calls : List Call}
    (h : ∀ (w : Worker), ∀ call ∈ calls, P (w.turn call)) : ∀ t ∈ w.turns calls, P t := by
  induction calls generalizing w with
  | nil => exact fun _ ht => absurd ht List.not_mem_nil
  | cons call calls ih =>
    refine List.forall_mem_cons.2 ⟨h w call List.mem_cons_self, ih fun w' call' hcall' => ?_⟩
    exact h w' call' (List.mem_cons_of_mem _ hcall')

end Worker

end Modbus
