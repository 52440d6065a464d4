import Modbus.Handler
import Modbus.Text.Listing

namespace Modbus

/-- Handlers of one kind, at most one under each code. -/
structure HandlerMap (α : Type) where
  entries : List (UInt8 × α) := []
  distinct : entries.Pairwise fun e e' => e.1 ≠ e'.1 := by exact .nil

namespace HandlerMap

variable {α : Type}

def get? (m : HandlerMap α) (code : UInt8) : Option α := m.entries.lookup code

instance : CoeFun (HandlerMap α) fun _ => UInt8 → Option α := ⟨get?⟩

def erase (m : HandlerMap α) (code : UInt8) : HandlerMap α where
  entries := m.entries.filter (·.1 != code)
  distinct := m.distinct.filter _

def insert (m : HandlerMap α) (code : UInt8) (h : α) : HandlerMap α where
  entries := (code, h) :: (m.erase code).entries
  distinct := by
    refine List.pairwise_cons.2 ⟨fun e he => ?_, (m.erase code).distinct⟩
    exact (bne_iff_ne.1 (List.mem_filter.1 he).2).symm

def keys (m : HandlerMap α) : List UInt8 := m.entries.map (·.1)

@[simp, grind =] theorem get?_erase (m : HandlerMap α) (code c : UInt8) :
    m.erase code c = if c = code then none else m c := by
  change (m.entries.filter (·.1 != code)).lookup c = if c = code then none else m.entries.lookup c
  induction m.entries with
  | nil => split <;> rfl
  | cons e entries ih => grind

@[simp, grind =] theorem get?_insert (m : HandlerMap α) (code c : UInt8) (h : α) :
    m.insert code h c = if c = code then some h else m c := by
  rw [get?, insert, List.lookup_cons]
  by_cases hc : c = code
  · simp [hc]
  · rw [beq_false_of_ne hc, if_neg hc]
    exact (m.get?_erase code c).trans (if_neg hc)

theorem mem_keys {m : HandlerMap α} {code : UInt8} : code ∈ m.keys ↔ (m code).isSome = true := by
  rw [keys, get?, List.mem_map, List.lookup_isSome_iff]
  simp only [beq_iff_eq, eq_comm (a := code)]

end HandlerMap

structure DispatchTable where
  native : HandlerMap NativeHandler := {}
  contextual : HandlerMap ContextHandler := {}

namespace DispatchTable

def empty : DispatchTable := {}

def registerNative (t : DispatchTable) (code : UInt8) (h : NativeHandler) : DispatchTable :=
  { t with native := t.native.insert code h }

def registerContextual (t : DispatchTable) (code : UInt8) (h : ContextHandler) : DispatchTable :=
  { t with contextual := t.contextual.insert code h }

def unregister (t : DispatchTable) (code : UInt8) : DispatchTable :=
  { native := t.native.erase code, contextual := t.contextual.erase code }

def lookup (t : DispatchTable) (code : UInt8) : Option Handler :=
  match t.native code with
  | some h => some (.native h)
  | none => (t.contextual code).map .contextual

def standard : DispatchTable :=
  StandardFunction.all.foldl (fun t f => t.registerNative f.code f.handler) empty

/-- The codes of both kinds of handlers, sorted, and each of them once. -/
def codes (t : DispatchTable) : List UInt8 :=
  (t.native.keys ++ t.contextual.keys).mergeSort.eraseReps

def text (t : DispatchTable) : String :=
  "DispatchTable \x7b codes: " ++ Text.listingOctets t.codes ++ " \x7d"

theorem lookup_empty (code : UInt8) : empty.lookup code = none := rfl

theorem lookup_registerNative_self (t : DispatchTable) (code : UInt8) (h : NativeHandler) :
    (t.registerNative code h).lookup code = some (.native h) := by
  simp [lookup, registerNative]

theorem lookup_registerNative_of_ne (t : DispatchTable) {code c : UInt8} (h : NativeHandler)
    (hne : c ≠ code) : (t.registerNative code h).lookup c = t.lookup c := by
  simp [lookup, registerNative, hne]

/-- A contextual handler serves its code unless there is a native one. -/
theorem lookup_registerContextual_self (t : DispatchTable) (code : UInt8) (h : ContextHandler) :
    (t.registerContextual code h).lookup code =
      some (((t.native code).map .native).getD (.contextual h)) := by
  cases hn : t.native code <;> simp [lookup, registerContextual, hn]

theorem lookup_registerContextual_of_ne (t : DispatchTable) {code c : UInt8} (h : ContextHandler)
    (hne : c ≠ code) : (t.registerContextual code h).lookup c = t.lookup c := by
  simp [lookup, registerContextual, hne]

theorem lookup_unregister_self (t : DispatchTable) (code : UInt8) :
    (t.unregister code).lookup code = none := by
  simp [lookup, unregister]

theorem lookup_unregister_of_ne (t : DispatchTable) {code c : UInt8} (hne : c ≠ code) :
    (t.unregister code).lookup c = t.lookup c := by
  simp [lookup, unregister, hne]

end DispatchTable

end Modbus
