import Modbus.Proofs.Queue.Drain
import Modbus.Proofs.Worker.Turns

namespace Modbus.Queue

variable {ι α : Type}

namespace Job

def Breaks (w : Worker) (m : Moment) : Job α → Prop
  | request context frame => ∃ payload, (w.invoke m context frame).result = .error (.panic payload)
  | access run => ∃ payload, (run w.state).2 = .error payload

end Job

namespace Books

variable {w : Worker} {y : System ι α}

theorem nodup_numbers (h : Books w y) {l : List (Submission ι α)} (hl : l.Sublist y.submitted) :
    (l.map Submission.number).Nodup := by
  have hnumbers := hl.map Submission.number
  rw [h.numbers] at hnumbers
  exact List.nodup_range.sublist hnumbers

end Books

namespace System

variable [DecidableEq ι] {w : Worker} {m : Moment} {y : System ι α}

end System

end Modbus.Queue
