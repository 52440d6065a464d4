import Modbus.Proofs.Connection.Serial
import Modbus.Proofs.Framing.Answers
import Modbus.Proofs.Framing.Layout

namespace Modbus

open Line Signal

namespace Framing

/-- What is read and decoded from a serial line, whatever was sent, are requests. -/
theorem isRequest_of_carries {own : Option UInt8} {line : Line} {frames : List Frame}
    (h : (Framing.rtu own).Carries line frames) : ∀ f ∈ frames, Rtu.IsRequest f := by
  induction h with
  | done => exact fun _ hnil => absurd hnil List.not_mem_nil
  | next hread hdecode _ ih =>
    exact List.forall_mem_cons.2 ⟨(Rtu.layout_readFrame hread).isRequest hdecode, ih⟩

end Framing

namespace Rtu

/-- A request on the line, and the answer of another slave if it got one. -/
structure Passage where
  request : Frame
  answer : Option Frame

def Passage.frames (p : Passage) : List Frame := p.request :: p.answer.toList

/-- A passage as a slave with its own unit hears it. Nobody hears its own answers, and broadcasts
are answered by nobody. A request for another unit is answered by a slave with the standard
functions. -/
inductive Passage.IsHeard (own : UInt8) : Passage → Prop
  | unanswered {request : Frame} (hrequest : IsRequest request)
    (hunit : request.unit = own ∨ request.unit = 0) : IsHeard own ⟨request, none⟩
  | foreign {peer : Worker} {call : Call} {answer : Frame} (hpeer : peer.table = .standard)
    (hanswer : (peer.turn call).response = answer) (hrequest : IsRequest call.request)
    (hunit : ¬ (call.request.unit = own ∨ call.request.unit = 0)) :
    IsHeard own ⟨call.request, some answer⟩

inductive Spaced : List Signal → List Frame → Prop
  | done : Spaced [] []
  | silence {signals : List Signal} {frames : List Frame} (h : Spaced signals frames) :
    Spaced (quiet :: signals) frames
  | frame {back : List Signal} {frames : List Frame} (f : Frame) (h : Spaced back frames) :
    Spaced (f.encode.map octet ++ quiet :: back) (f :: frames)

theorem Spaced.carries {signals : List Signal} {frames : List Frame} (h : Spaced signals frames) :
    Carries signals frames := by
  induction h with
  | done => exact .done
  | silence _ ih => exact .silence ih
  | frame f _ ih =>
    by_cases hcode : IsStandard f.function
    · exact .standard hcode (octets_map_octet f.encode) (.silence ih)
    · exact .other hcode ih

theorem IsRequest.envelope {f : Frame} (h : IsRequest f) : f.envelope = .rtu := by
  cases h <;> rfl

theorem Passage.IsHeard.isRequest {own : UInt8} {p : Passage} (h : p.IsHeard own) :
    IsRequest p.request := by
  cases h <;> assumption

theorem Passage.IsHeard.isRequest_answer {own : UInt8} {p : Passage} (h : p.IsHeard own)
    {answer : Frame} (hanswer : p.answer = some answer) :
    (IsRequest answer ↔ PassesForRequest p.request answer) ∧ answer.unit = p.request.unit ∧
      ¬ (p.request.unit = own ∨ p.request.unit = 0) := by
  cases h with
  | unanswered => cases hanswer
  | @foreign peer call answer' hpeer hresponse hrequest hunit =>
    obtain rfl := hresponse.trans (Option.some.inj hanswer)
    exact ⟨isRequest_response hpeer hrequest.envelope,
      (Worker.envelope_handle peer call.moment call.context call.request).2, hunit⟩

theorem forall_mem_passages {own : UInt8} {passages : List Passage}
    (hheard : ∀ p ∈ passages, p.IsHeard own) :
    (∀ f ∈ passages.flatMap Passage.frames, IsRequest f) ↔
      ∀ p ∈ passages, ∀ answer ∈ p.answer, PassesForRequest p.request answer := by
  constructor
  · intro h p hp answer hanswer
    refine ((hheard p hp).isRequest_answer hanswer).1.1 (h answer ?_)
    rw [List.mem_flatMap]
    exact ⟨p, hp, List.mem_cons_of_mem _ (Option.mem_toList.2 hanswer)⟩
  · intro h f hf
    obtain ⟨p, hp, hf⟩ := List.mem_flatMap.1 hf
    rcases List.mem_cons.1 hf with rfl | hf
    · exact (hheard p hp).isRequest
    · have hanswer : p.answer = some f := Option.mem_toList.1 hf
      exact ((hheard p hp).isRequest_answer hanswer).1.2 (h p hp f hanswer)

/-- No answer of another slave has the unit of a frame that is executed. -/
theorem filter_passages {own : UInt8} {passages : List Passage}
    (hheard : ∀ p ∈ passages, p.IsHeard own) :
    (passages.flatMap Passage.frames).filter (fun f => f.unit == own || f.unit == 0) =
      (passages.map Passage.request).filter fun f => f.unit == own || f.unit == 0 := by
  induction passages with
  | nil => rfl
  | cons p passages ih =>
    obtain ⟨hp, hpassages⟩ := List.forall_mem_cons.1 hheard
    have hanswer : p.answer.toList.filter (fun f => f.unit == own || f.unit == 0) = [] := by
      rw [List.filter_eq_nil_iff]
      intro f hf
      obtain ⟨-, hunit, hforeign⟩ := hp.isRequest_answer (Option.mem_toList.1 hf)
      rw [Bool.or_eq_true, beq_iff_eq, beq_iff_eq, hunit]
      exact hforeign
    rw [List.flatMap_cons, List.filter_append, ih hpassages, Passage.frames, List.map_cons,
      List.filter_cons, List.filter_cons, hanswer]
    split <;> rfl

end Rtu

namespace Connection

variable {c : Connection} {own : UInt8}

/-- The frames on a line with other slaves are read as they were sent just if all answers are as
long as requests. Then the requests for the own unit and the broadcasts are executed in order, and
those for the own unit are answered. -/
theorem serve_shared_line (hc : c.framing = .rtu (some own)) (schedule : Schedule) (w : Worker)
    (passages : List Rtu.Passage) (hheard : ∀ p ∈ passages, p.IsHeard own) (line : Line)
    (hline : line.Steady)
    (hspaced : Rtu.Spaced line.signals (passages.flatMap Rtu.Passage.frames))
    (pattern : Nat → Nat → Nat → Uptake)
    (flushFault : Nat → Nat → Option (StreamFault × String))
    (htakes : Sink.Takes { pattern, flushFault }) :
    let requests := (passages.map Rtu.Passage.request).filter fun f => f.unit == own || f.unit == 0
    let turns := w.turns (c.calls schedule 0 requests)
    let v := c.serve schedule w line { pattern, flushFault }
    (c.framing.Carries line (passages.flatMap Rtu.Passage.frames) ↔
      ∀ p ∈ passages, ∀ answer ∈ p.answer, Rtu.PassesForRequest p.request answer) ∧
    ((∀ p ∈ passages, ∀ answer ∈ p.answer, Rtu.PassesForRequest p.request answer) →
      c.Prompt schedule 0 turns →
        v.executed = requests ∧ v.worker = w.afterAll (c.calls schedule 0 requests) ∧
          v.sink.flushed = (turns.filter (·.request.unit != 0)).map (·.response.encode) ∧
          v.line = [] ∧ v.ending = .closed) := by
  intro requests turns v
  have hstep : c.framing.Carries line (passages.flatMap Rtu.Passage.frames) ↔
      ∀ p ∈ passages, ∀ answer ∈ p.answer, Rtu.PassesForRequest p.request answer := by
    rw [hc, ← Rtu.forall_mem_passages hheard]
    exact ⟨Framing.isRequest_of_carries,
      fun h => Framing.carries_rtu (some own) hspaced.carries h hline rfl⟩
  refine ⟨hstep, fun hpass hprompt => ?_⟩
  have hexecuted : c.executed (passages.flatMap Rtu.Passage.frames) = requests :=
    (executed_rtu hc _).trans (Rtu.filter_passages hheard)
  have hserves := serveFrom_carries (hstep.2 hpass) htakes rfl (by rwa [hexecuted])
  rw [hexecuted] at hserves
  have hsends := hserves.sink
  rw [messages_rtu hc] at hsends
  exact ⟨hserves.executed, hserves.worker, hsends.flushed, hserves.line, hserves.ending⟩

/-- The echo of a write and an exception pass, and the request behind them is answered. -/
theorem serve_shared_line_echo :
    let c : Connection :=
      { session := { transport := .rtu, token := 0 }, framing := .rtu (some 17),
        requestTimeout := ⟨1000⟩ }
    let write := Frame.rtu 34 5 [0, 1, 255, 0]
    let outside := Frame.rtu 34 3 [0, 9, 0, 1]
    let own := Frame.rtu 17 3 [0, 0, 0, 1]
    let passages : List Rtu.Passage :=
      [⟨write, some write⟩, ⟨outside, some (.rtu 34 0x83 [2])⟩, ⟨own, none⟩]
    let line : Line := [.data write.encode, .silence, .data write.encode, .silence,
      .data outside.encode, .silence, .data (Frame.rtu 34 0x83 [2]).encode, .silence,
      .data own.encode, .silence]
    let v := c.serve (.idle (.quiet 0)) .small line { pattern := fun _ _ _ => .upTo 2 }
    (∀ p ∈ passages, p.IsHeard 17) ∧ v.executed = [own] ∧
      v.sink.flushed = [(Frame.rtu 17 3 [2, 0, 0]).encode] ∧ v.ending = .closed := by
  intro c write outside own passages line v
  let heard (request : Frame) : Call := ⟨.quiet 0, .detached .rtu 0, request⟩
  have hwrite : (Worker.small.turn (heard write)).response = write := by decide +kernel
  have houtside : (Worker.small.turn (heard outside)).response = .rtu 34 0x83 [2] := by
    decide +kernel
  have hheard : ∀ p ∈ passages, p.IsHeard 17 := by
    simp only [passages, List.forall_mem_cons]
    exact ⟨.foreign rfl hwrite (.fixed (by decide) rfl) (by decide),
      .foreign rfl houtside (.fixed (by decide) rfl) (by decide),
      .unanswered (.fixed (by decide) rfl) (.inl rfl), by simp⟩
  have hspaced : Rtu.Spaced line.signals (passages.flatMap Rtu.Passage.frames) :=
    .frame write (.frame write (.frame outside (.frame _ (.frame own .done))))
  have hprompt : c.Prompt (.idle (.quiet 0)) 0
      (Worker.small.turns (c.calls (.idle (.quiet 0)) 0 [own])) :=
    prompt_cons.2 ⟨⟨1000, by decide +kernel, by decide +kernel⟩, prompt_nil⟩
  have hc : c.framing = .rtu (some 17) := rfl
  have hserves := (serve_shared_line hc (.idle (.quiet 0)) .small passages hheard line
    (by decide +kernel) hspaced (fun _ _ _ => .upTo 2) (fun _ _ => none)
    (Sink.takes_slow 1)).2
  have hpass : ∀ p ∈ passages, ∀ answer ∈ p.answer, Rtu.PassesForRequest p.request answer := by
    simp only [passages, List.forall_mem_cons]
    refine ⟨?_, ?_, ?_, by simp⟩
    · intro answer hanswer
      obtain rfl := Option.some.inj hanswer
      exact .inr (.inl rfl)
    · intro answer hanswer
      obtain rfl := Option.some.inj hanswer
      exact .inl (by decide)
    · exact nofun
  obtain ⟨hexecuted, -, hflushed, -, hending⟩ := hserves hpass hprompt
  exact ⟨hheard, hexecuted.trans (by decide +kernel), hflushed.trans (by decide +kernel), hending⟩

/-- Another slave gives two registers, which takes nine octets and not eight. The request behind it
is lost with the connection. -/
theorem serve_shared_line_lost :
    let c : Connection :=
      { session := { transport := .rtu, token := 0 }, framing := .rtu (some 17),
        requestTimeout := ⟨1000⟩ }
    let foreign := Frame.rtu 34 3 [0, 0, 0, 2]
    let answer := Frame.rtu 34 3 [4, 0, 0, 0, 0]
    let own := Frame.rtu 17 3 [0, 0, 0, 2]
    let passages : List Rtu.Passage := [⟨foreign, some answer⟩, ⟨own, none⟩]
    let line : Line := [.data foreign.encode, .silence, .data answer.encode, .silence,
      .data own.encode, .silence]
    let v := c.serve (.idle (.quiet 0)) .small line { pattern := fun _ _ _ => .upTo 2 }
    (∀ p ∈ passages, p.IsHeard 17) ∧ line.Steady ∧
      Rtu.Spaced line.signals (passages.flatMap Rtu.Passage.frames) ∧
      v.ending = .failed (.malformedFrame (.checksum 0xA943 0xE800)) ∧ v.executed = [] ∧
      v.sink.flushed = [] := by
  intro c foreign answer own passages line v
  have hanswer : (Worker.small.turn ⟨.quiet 0, .detached .rtu 0, foreign⟩).response = answer := by
    decide +kernel
  have hheard : ∀ p ∈ passages, p.IsHeard 17 := by
    simp only [passages, List.forall_mem_cons]
    exact ⟨.foreign rfl hanswer (.fixed (by decide) rfl) (by decide),
      .unanswered (.fixed (by decide) rfl) (.inl rfl), by simp⟩
  have hread : c.framing.readFrame line = (.ok (some foreign.encode), line.tail) := rfl
  -- The last octet of the answer stays behind, and the request after it.
  have hcut : c.framing.readFrame line.tail = (.ok (some (answer.encode.take 8)),
      .data (answer.encode.drop 8) :: line.drop 3) := rfl
  have hraw : answer.encode.take 8 = [34, 3, 4, 0, 0, 0] ++ littleEndian 0xE800 := by
    decide +kernel
  have hexpected : Crc.checksum [34, 3, 4, 0, 0, 0] = 0xA943 := by decide +kernel
  have hwrong : 0xE800 ≠ Crc.checksum [34, 3, 4, 0, 0, 0] := by decide +kernel
  have hhead : 2 ≤ ([34, 3, 4, 0, 0, 0] : Octets).length := by decide
  have hdecode := Frame.decodeRtu_checksum hhead hwrong
  rw [← hraw, hexpected] at hdecode
  have hskip := Frame.decodeRtu_encode 34 3 [0, 0, 0, 2]
  have hv : v = prepend [] _ (c.finish .small _ _ _) :=
    (serveFrom_foreign hread hskip rfl).trans
      (congrArg (prepend [] _) (serveFrom_rejected hcut hdecode))
  rw [hv]
  have hspaced : Rtu.Spaced line.signals (passages.flatMap Rtu.Passage.frames) :=
    .frame foreign (.frame answer (.frame own .done))
  exact ⟨hheard, by decide +kernel, hspaced, rfl, rfl, rfl⟩

end Connection

end Modbus
