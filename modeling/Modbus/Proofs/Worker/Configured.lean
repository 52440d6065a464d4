import Modbus.Proofs.Framing.Mbap
import Modbus.Proofs.Registers.Requests
import Modbus.Proofs.Worker.Memory
import Modbus.Proofs.Worker.Served
import Modbus.Server

namespace Modbus

namespace Config

variable {c : Config}

theorem le_of_checkLimit {setting : String} {largest value : UInt16}
    (h : checkLimit setting largest value = .ok ()) : value ≤ largest := by
  unfold checkLimit Limits.within at h
  split at h
  · next hwithin => exact of_decide_eq_true (Bool.and_eq_true_iff.1 hwithin).2
  · cases h

theorem withinStandard_of_checkLimits {l : Limits} (h : checkLimits l = .ok ()) :
    l.WithinStandard := by
  obtain ⟨_, hreadRegisters, h⟩ := Operation.bind_ok_iff.1 h
  obtain ⟨_, hwriteRegisters, h⟩ := Operation.bind_ok_iff.1 h
  obtain ⟨_, hreadCoils, hwriteCoils⟩ := Operation.bind_ok_iff.1 h
  exact ⟨le_of_checkLimit hreadRegisters, le_of_checkLimit hwriteRegisters,
    le_of_checkLimit hreadCoils, le_of_checkLimit hwriteCoils⟩

theorem le_of_checkBankSize {size : Nat} (h : checkBankSize size = .ok ()) :
    size ≤ RegisterMap.addressSpace := by
  unfold checkBankSize at h
  split at h
  · cases h
  · next hsize =>
    simp only [Bool.or_eq_true, decide_eq_true_eq, not_or] at hsize
    exact Nat.le_of_not_lt hsize.2

theorem of_validate (h : c.validate = .ok ()) :
    c.bankSize ≤ RegisterMap.addressSpace ∧ c.limits.WithinStandard := by
  obtain ⟨_, hsize, h⟩ := Operation.bind_ok_iff.1 h
  obtain ⟨_, -, h⟩ := Operation.bind_ok_iff.1 h
  obtain ⟨_, -, h⟩ := Operation.bind_ok_iff.1 h
  obtain ⟨_, -, hlimits⟩ := Operation.bind_ok_iff.1 h
  exact ⟨le_of_checkBankSize hsize, withinStandard_of_checkLimits hlimits⟩

end Config

theorem RegisterMap.hasSize_blank {size : Nat} (h : size ≤ addressSpace) :
    (blank size).HasSize size := by
  rw [blank, Nat.min_eq_left h]
  constructor <;> exact Array.size_replicate

theorem Overwrites.hasSize {coil : Nat → Option Bool} {register : Nat → Option UInt16}
    {s s' : SlaveState} {size : Nat} (h : Overwrites coil register s s')
    (hs : s.registers.HasSize size) : s'.registers.HasSize size where
  discreteInputs := (congrArg Bank.size h.discreteInputs).trans hs.discreteInputs
  coils := (Bank.size_of_getElem? h.coils).trans hs.coils
  holdingRegisters := (Bank.size_of_getElem? h.holdingRegisters).trans hs.holdingRegisters
  inputRegisters := (congrArg Bank.size h.inputRegisters).trans hs.inputRegisters

/-- A standard function returns what fits a frame, or refuses the request. -/
theorem StandardFunction.handler_result (f : StandardFunction) {s : SlaveState}
    (hs : s.limits.WithinStandard) (request : Frame) :
    (∃ answer, (f.handler s request).result = .ok answer ∧ answer.length ≤ 252) ∨
      (f.handler s request).result = .error (.exception .illegalDataValue) ∨
      (f.handler s request).result = .error (.exception .illegalDataAddress) := by
  rw [handler]
  cases happly : f.apply s request.payload with
  | error e =>
    rcases apply_error happly with rfl | rfl
    · exact .inr (.inl rfl)
    · exact .inr (.inr rfl)
  | ok done =>
    obtain ⟨hvalid, hinside, hanswer⟩ := apply_ok happly
    refine .inl ⟨done.2, rfl, ?_⟩
    rw [hanswer, length_answer hvalid hinside]
    exact Nat.le_succ_of_le (answerLength_le hs hvalid)

namespace Worker

structure Configured (w : Worker) (config : Config) : Prop where
  table : w.table = .standard
  limits : w.state.limits = config.limits
  registers : w.state.registers.HasSize config.bankSize

variable {w : Worker} {config : Config}

theorem Configured.afterAll (h : w.Configured config) (calls : List Call) :
    (w.afterAll calls).Configured config := by
  have hoverwrites := overwrites_afterAll h.table calls
  exact ⟨(table_afterAll w calls).trans h.table, hoverwrites.limits.trans h.limits,
    hoverwrites.hasSize h.registers⟩

theorem Configured.exception?_ne (h : w.Configured config) (hl : config.limits.WithinStandard)
    (call : Call) : (w.turn call).response.exception? ≠ some .slaveDeviceFailure := by
  by_cases hcode : ∃ f : StandardFunction, f.code = call.request.function
  · rcases hcode with ⟨f, hcode⟩
    have hresponse := (turn_of_code h.table hcode).1
    rcases f.handler_result (h.limits ▸ hl) call.request with ⟨payload, hresult, hlength⟩ |
      hresult | hresult
    · rw [hresult, answer_of_length_le call.request hlength] at hresponse
      simp [Frame.exception?, Ends.isException_eq_false hcode hresponse]
    · rw [hresponse, hresult, answer, Frame.exception?_withException (by decide)]
      decide
    · rw [hresponse, hresult, answer, Frame.exception?_withException (by decide)]
      decide
  · have hresponse := (turn_of_unknown h.table fun f hf => hcode ⟨f, hf⟩).1
    rw [hresponse, Frame.exception?_withException (by decide)]
    decide

theorem Configured.turn_of_asks (h : w.Configured config) (hl : config.limits.WithinStandard)
    {f : StandardFunction} {address quantity : UInt16} {call : Call}
    (hadmits : f.Admits config.limits quantity)
    (hsize : address.toNat + quantity.toNat ≤ config.bankSize)
    (hcode : f.code = call.request.function)
    (hasks : f.Asks address quantity call.request.payload) :
    (w.turn call).response =
      call.request.response.withPayload (f.answer w.state.registers call.request.payload) := by
  have hvalid : ¬ f.IsInvalid w.state.limits call.request.payload := by
    rw [h.limits]
    exact hasks.valid hl hadmits
  have hinside := hasks.inside h.registers hadmits hsize
  have hlength : f.answerLength (Payload.operand call.request.payload) ≤ 252 :=
    Nat.le_succ_of_le (StandardFunction.answerLength_le (h.limits ▸ hl) hvalid)
  exact (turn_of_serves h.table hcode ⟨hvalid, hinside, hlength⟩).1

theorem configured_create {server : Server}
    (h : Server.create config .standard = .ok server)
    (hsize : config.bankSize ≤ RegisterMap.addressSpace) : server.worker.Configured config := by
  obtain ⟨_, -, hserver⟩ := Operation.bind_ok_iff.1 h
  obtain rfl := Except.ok.inj hserver
  exact ⟨rfl, rfl, RegisterMap.hasSize_blank hsize⟩

end Worker

namespace Server

/-- A server whose settings are accepted never answers with `slaveDeviceFailure`, whatever it was
asked before. A request for cells that exist, as many as a limit allows at most, fits one frame in
either envelope, and is carried out. -/
theorem create_standard {config : Config} (h : config.validate = .ok ()) :
    ∃ server, create config .standard = .ok server ∧ ∀ calls : List Call,
      let w := server.worker.afterAll calls
      (∀ call, (w.turn call).response.exception? ≠ some .slaveDeviceFailure) ∧
      (∀ (f : StandardFunction) (request : Frame),
        (∃ answer, (f.handler w.state request).result = .ok answer ∧ answer.length ≤ 252) ∨
          (f.handler w.state request).result = .error (.exception .illegalDataValue) ∨
          (f.handler w.state request).result = .error (.exception .illegalDataAddress)) ∧
      ∀ (f : StandardFunction) (address quantity : UInt16) (payload : Octets),
        f.Admits config.limits quantity →
        address.toNat + quantity.toNat ≤ config.bankSize →
        f.Asks address quantity payload →
        (∀ transaction unit,
          let tcp := (Frame.tcp transaction unit f.code payload).encode
          Mbap.announcedLength (tcp.take Mbap.headerLength) = payload.length + 2 ∧
            payload.length + 2 ≤ 254 ∧ (Frame.rtu unit f.code payload).encode.length ≤ 256) ∧
        ∀ call : Call, call.request.function = f.code → call.request.payload = payload →
          (w.turn call).response =
              call.request.response.withPayload (f.answer w.state.registers payload) ∧
            (w.turn call).response.isException = false := by
  obtain ⟨hsize, hlimits⟩ := Config.of_validate h
  obtain ⟨server, hserver⟩ : ∃ server, create config .standard = .ok server := by
    rw [create, h]
    exact ⟨_, rfl⟩
  refine ⟨server, hserver, fun calls => ?_⟩
  intro w
  have hw : w.Configured config := (Worker.configured_create hserver hsize).afterAll calls
  refine ⟨hw.exception?_ne hlimits, fun f request => f.handler_result (hw.limits ▸ hlimits) request,
    fun f address quantity payload hadmits hcells hasks => ⟨fun transaction unit => ?_, ?_⟩⟩
  · have hlength := hasks.length_le hlimits hadmits
    have hannounced := Mbap.announcedLength_encode transaction unit f.code
      (Nat.le_succ_of_le hlength) []
    rw [List.append_nil] at hannounced
    refine ⟨hannounced, by omega, ?_⟩
    rw [Frame.length_encode_rtu]
    omega
  · intro call hcode hpayload
    subst hpayload
    have hresponse := hw.turn_of_asks hlimits hadmits hcells hcode.symm hasks
    exact ⟨hresponse, Worker.Ends.isException_eq_false hcode.symm hresponse⟩

/-- As many coils as one request may write, up to the last one there is. -/
theorem create_standard_largest :
    let config : Config := { bankSize := 2000 }
    let values := List.replicate 246 0xFF
    let call : Call := ⟨.quiet 0, .detached .rtu 0,
      .rtu 17 15 (bigEndian 32 ++ (bigEndian 1968 ++ Operation.counted values))⟩
    config.validate = .ok () ∧ call.request.encode.length ≤ 256 ∧
      ∃ server, create config .standard = .ok server ∧
        ((server.worker.afterAll [call]).turn call).response = .rtu 17 15 [0, 32, 7, 0xB0] := by
  intro config values call
  have haccepted : config.validate = .ok () := rfl
  obtain ⟨server, hserver, hserves⟩ := create_standard haccepted
  have hasks : StandardFunction.writeMultipleCoils.Asks 32 1968 call.request.payload :=
    ⟨values, List.length_replicate, rfl⟩
  obtain ⟨hfits, hresponds⟩ := (hserves [call]).2.2 .writeMultipleCoils 32 1968 _ rfl
    (by decide) hasks
  exact ⟨haccepted, (hfits 0 17).2.2, server, hserver, (hresponds call rfl rfl).1⟩

end Server

end Modbus
