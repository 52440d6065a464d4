import Modbus.Proofs.Registers.Effect

namespace Modbus

/-- A computation that fails in no other way than by the given exception. -/
def OnlyRefuses {α : Type} (e : Exception) (x : Except Exception α) : Prop :=
  ∀ e', x = .error e' → e' = e

namespace OnlyRefuses

variable {α β : Type} {e : Exception}

theorem ok (a : α) : OnlyRefuses e (.ok a) := by
  intro e' h
  cases h

theorem error : OnlyRefuses e (.error e : Except Exception α) := by
  intro e' h
  exact (Except.error.inj h).symm

theorem bind {x : Except Exception α} {f : α → Except Exception β} (hx : OnlyRefuses e x)
    (hf : ∀ a, OnlyRefuses e (f a)) : OnlyRefuses e (x >>= f) := by
  intro e' h
  cases x with
  | error e'' =>
    obtain rfl : e'' = e' := Except.error.inj h
    exact hx _ rfl
  | ok a => exact hf a e' h

theorem ite {p : Prop} [Decidable p] {x y : Except Exception α} (hx : OnlyRefuses e x)
    (hy : OnlyRefuses e y) : OnlyRefuses e (if p then x else y) := by
  split
  · exact hx
  · exact hy

end OnlyRefuses

namespace Bank

variable {α : Type} (b : Bank α) (address : UInt16)

theorem onlyRefuses_read (quantity : UInt16) :
    OnlyRefuses .illegalDataAddress (b.read address quantity) := .ite (.ok _) .error

theorem onlyRefuses_write (values : List α) :
    OnlyRefuses .illegalDataAddress (b.write address values) := .ite (.ok _) .error

theorem onlyRefuses_set (value : α) :
    OnlyRefuses .illegalDataAddress (b.set address value) := .ite (.ok _) .error

end Bank

namespace Payload

theorem onlyRefuses_readOctet (left : Octets) :
    OnlyRefuses .illegalDataValue (readOctet left) := by
  cases left with
  | nil => exact .error
  | cons b left => exact .ok _

theorem onlyRefuses_readWord (left : Octets) :
    OnlyRefuses .illegalDataValue (readWord left) := by
  match left with
  | [] | [_] => exact .error
  | _ :: _ :: _ => exact .ok _

theorem onlyRefuses_readWords (n : Nat) (left : Octets) :
    OnlyRefuses .illegalDataValue (readWords n left) := by
  induction n generalizing left with
  | zero => exact .ok _
  | succ n ih =>
    exact .bind (onlyRefuses_readWord left) fun word =>
      .bind (ih word.2) fun words => .ok (word.1 :: words.1, words.2)

end Payload

namespace Operation

open Payload

theorem onlyRefuses_require (holds : Bool) : OnlyRefuses .illegalDataValue (require holds) :=
  .ite (.ok _) .error

theorem onlyRefuses_decodeRange (allows : UInt16 → Bool) (payload : Octets) :
    OnlyRefuses .illegalDataValue (decodeRange allows payload) :=
  .bind (onlyRefuses_readWord _) fun _ =>
    .bind (onlyRefuses_readWord _) fun _ =>
      .bind (onlyRefuses_require _) fun _ => .ok _

theorem onlyRefuses_decodeBlock (allows : UInt16 → Bool) (octetsFor : Nat → Nat)
    (payload : Octets) : OnlyRefuses .illegalDataValue (decodeBlock allows octetsFor payload) :=
  .bind (onlyRefuses_readWord _) fun _ =>
    .bind (onlyRefuses_readWord _) fun _ =>
      .bind (onlyRefuses_readOctet _) fun _ =>
        .bind (onlyRefuses_require _) fun _ => .ok _

theorem onlyRefuses_decode (f : StandardFunction) (l : Limits) (payload : Octets) :
    OnlyRefuses .illegalDataValue (decode f l payload) := by
  cases f with
  | readCoils | readDiscreteInputs | readHoldingRegisters | readInputRegisters =>
    exact .bind (onlyRefuses_decodeRange _ _) fun _ => .ok _
  | writeSingleCoil =>
    exact .bind (onlyRefuses_readWord _) fun _ =>
      .bind (onlyRefuses_readWord _) fun _ => .ite (.ok _) (.ite (.ok _) .error)
  | writeSingleRegister =>
    exact .bind (onlyRefuses_readWord _) fun _ => .bind (onlyRefuses_readWord _) fun _ => .ok _
  | writeMultipleCoils => exact .bind (onlyRefuses_decodeBlock _ _ _) fun _ => .ok _
  | writeMultipleRegisters =>
    exact .bind (onlyRefuses_decodeBlock _ _ _) fun _ =>
      .bind (onlyRefuses_readWords _ _) fun _ => .ok _

theorem onlyRefuses_perform (op : Operation) (s : SlaveState) :
    OnlyRefuses .illegalDataAddress (op.perform s) := by
  cases op with
  | readCoils | readDiscreteInputs | readHoldingRegisters | readInputRegisters =>
    exact .bind (Bank.onlyRefuses_read _ _ _) fun _ => .ok _
  | writeCoil | writeRegister => exact .bind (Bank.onlyRefuses_set _ _ _) fun _ => .ok _
  | writeCoils | writeRegisters => exact .bind (Bank.onlyRefuses_write _ _ _) fun _ => .ok _

end Operation

/-- A refused request is answered with one of two exceptions. -/
theorem StandardFunction.apply_error {f : StandardFunction} {s : SlaveState} {payload : Octets}
    {e : Exception} (h : f.apply s payload = .error e) :
    e = .illegalDataValue ∨ e = .illegalDataAddress := by
  unfold apply at h
  cases hdecode : Operation.decode f s.limits payload with
  | error e' =>
    rw [hdecode] at h
    obtain rfl : e' = e := Except.error.inj h
    exact .inl (Operation.onlyRefuses_decode f s.limits payload _ hdecode)
  | ok op =>
    rw [hdecode] at h
    exact .inr (Operation.onlyRefuses_perform op s _ h)

end Modbus
