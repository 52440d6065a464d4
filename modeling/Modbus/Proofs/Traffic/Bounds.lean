import Modbus.Proofs.Framing.Layout
import Modbus.Proofs.Framing.Mbap
import Modbus.Proofs.Traffic.Regular
import Modbus.Proofs.Worker.Turns

namespace Modbus

namespace Rtu

inductive IsOverlong : Octets → Prop
  | block {unit function count : UInt8} {fields data : Octets}
    (hcode : function = 15 ∨ function = 16) (hfields : fields.length = 4)
    (hdata : data.length = count.toNat + 2) (hcount : 247 < count.toNat) :
    IsOverlong (unit :: function :: (fields ++ count :: data))

theorem length_block {unit function count : UInt8} {fields data : Octets}
    (hfields : fields.length = 4) (hdata : data.length = count.toNat + 2) :
    (unit :: function :: (fields ++ count :: data)).length = count.toNat + 9 := by
  simp only [List.length_cons, List.length_append, hfields, hdata]
  omega

theorem IsOverlong.length_le {raw : Octets} (h : IsOverlong raw) :
    longestFrame < raw.length ∧ raw.length ≤ 264 := by
  cases h with
  | @block unit function count fields data _ hfields hdata hcount =>
    have hbyte := count.toNat_lt
    rw [length_block hfields hdata, longestFrame]
    omega

theorem Layout.length_le {raw : Octets} (h : Layout raw) :
    raw.length ≤ longestFrame ∨ IsOverlong raw := by
  cases h with
  | fixed _ hlength =>
    left
    simp only [List.length_cons, hlength, longestFrame]
    decide
  | @counted unit function count fields data hcode hfields hdata =>
    by_cases hcount : 247 < count.toNat
    · exact .inr (.block hcode hfields hdata hcount)
    · left
      rw [length_block hfields hdata, longestFrame]
      omega
  | other _ hlength => exact .inl hlength

end Rtu

namespace Framing

variable {f : Framing}

def longestFrame : Framing → Nat
  | mbap => 6 + Mbap.largestLength
  | rtu _ => Rtu.longestFrame

/-- The frame is a block that is too long, on a serial line. -/
def Overruns (f : Framing) (raw : Octets) : Prop := (∃ own, f = .rtu own) ∧ Rtu.IsOverlong raw

theorem length_readFrame {line rest : Line} {raw : Octets}
    (h : f.readFrame line = (.ok (some raw), rest)) :
    raw.length ≤ f.longestFrame ∨ f.Overruns raw := by
  cases f with
  | mbap =>
    obtain ⟨raw', hraw, hwhole, -⟩ | ⟨hnone, -⟩ := Mbap.readFrame_ok h
    · obtain rfl := Option.some.inj hraw
      left
      rw [hwhole.length]
      exact Nat.add_le_add_left hwhole.inRange.2 6
    · cases hnone
  | rtu own => exact (Rtu.layout_readFrame h).length_le.imp_right fun hlong => ⟨⟨own, rfl⟩, hlong⟩

/-- Function and payload of a request that is read. -/
theorem Delivers.length_le {request : Frame} (h : f.Delivers request) :
    request.payload.length + 1 ≤ 253 ∨
      f.Overruns request.encode ∧ request.payload.length + 1 ≤ 261 := by
  obtain ⟨line, raw, rest, hread, hdecode⟩ := h
  have hlength := length_readFrame hread
  cases f with
  | mbap =>
    obtain ⟨-, transaction, unit, function, payload, rfl, -, rfl⟩ := Frame.decodeTcp_ok hdecode
    obtain hle | ⟨⟨own, hrtu⟩, -⟩ := hlength
    · rw [Frame.length_encode_tcp] at hle
      exact .inl (Nat.le_of_add_le_add_right (b := 7) hle)
    · cases hrtu
  | rtu own =>
    obtain ⟨-, unit, function, payload, rfl, rfl⟩ := Frame.decodeRtu_ok hdecode
    obtain hle | hlong := hlength
    · rw [Frame.length_encode_rtu] at hle
      exact .inl (Nat.le_of_add_le_add_right (b := 3) hle)
    · have hle := hlong.2.length_le.2
      rw [Frame.length_encode_rtu] at hle
      exact .inr ⟨hlong, Nat.le_of_add_le_add_right (b := 3) hle⟩

end Framing

namespace Traffic

variable {ι κ α : Type} [DecidableEq ι] [DecidableEq κ] {n : Network ι} {y : State ι κ α}

/-- A frame is no longer than the longest one, and what is submitted has at most 253 octets, but for
blocks on a serial line with more than 247 octets of data. -/
theorem submitted_bounded {w : Worker} {now : Time} (h : Reachable n w now y) :
    (∀ (f : Framing) (line rest : Line) (raw : Octets),
      f.readFrame line = (.ok (some raw), rest) →
        raw.length ≤ f.longestFrame ∨ f.Overruns raw ∧ raw.length ≤ 264) ∧
    ∀ i, ∀ s ∈ y.hub.submitted, s.client = .inl i → ∃ context request,
      s.job = .request context request ∧ (request.payload.length + 1 ≤ 253 ∨
        (n.connection i).framing.Overruns request.encode ∧ request.payload.length + 1 ≤ 261) := by
  refine ⟨fun f line rest raw hread => ?_, fun i s hs hown => ?_⟩
  · exact (Framing.length_readFrame hread).imp_right fun hlong => ⟨hlong, hlong.2.length_le.2⟩
  · obtain ⟨deadline, request, hjob, hdelivers⟩ := (Regular.of_reachable h i).requests s hs hown
    exact ⟨_, request, hjob, hdelivers.length_le⟩

def longBlock (data : Octets) : Frame := .rtu 1 16 ([0, 0, 0, 127] ++ 255 :: data)

def blockPort (data : Octets) : Network Unit where
  connection _ :=
    { session := { transport := .rtu, token := 0 }, framing := .rtu none, requestTimeout := ⟨1000⟩ }
  line _ := [.data (longBlock data).encode]
  sink _ := .eager
  own_token _ _ _ := rfl

section

variable {data : Octets}

theorem length_longBlock (h : data.length = 255) :
    (longBlock data).encode.length = 264 ∧ (longBlock data).payload.length + 1 = 261 := by
  have hpayload : (longBlock data).payload.length = 260 := by
    simp only [longBlock, Frame.rtu, List.length_append, List.length_cons, List.length_nil, h]
  rw [longBlock, Frame.length_encode_rtu]
  exact ⟨congrArg (· + 4) hpayload, congrArg (· + 1) hpayload⟩

theorem readFrame_longBlock (h : data.length = 255) :
    ∃ rest, Rtu.readFrame [.data (longBlock data).encode] =
      (.ok (some (longBlock data).encode), rest) := by
  have hline : Line.Steady [.data (longBlock data).encode] :=
    Line.steady_data.2 ⟨List.cons_ne_nil _ _, fun _ ha => absurd ha List.not_mem_nil⟩
  have hoctets : Line.octets [.data (longBlock data).encode] = (longBlock data).encode ++ [] := rfl
  obtain ⟨rest, -, -, hread⟩ := Rtu.readFrame_standard hline (.counted (.inr rfl) rfl h)
    (.inr (.inr rfl)) hoctets
  exact ⟨rest, hread⟩

/-- The block is read and submitted. -/
theorem reachable_longBlock (h : data.length = 255) :
    ∃ y : State Unit Unit Unit, Reachable (blockPort data) .small 0 y ∧
      ⟨0, .inl (), .request (((blockPort data).session ()).context (some 1000)) (longBlock data)⟩ ∈
        y.hub.submitted := by
  obtain ⟨rest, hread⟩ := readFrame_longBlock h
  let y : State Unit Unit Unit := start (blockPort data) .small 0
  have hdecode : Frame.decodeRtu (longBlock data).encode = .ok (longBlock data) :=
    Frame.decodeRtu_encode _ _ _
  have hloop : (y.loops ()).read ((blockPort data).connection ()) =
      some ⟨.received (longBlock data), rest, .eager⟩ := by
    simp only [Loop.read, y, start, blockPort, Framing.readFrame, hread, Framing.decode, hdecode]
    rfl
  have hfirst : Step (blockPort data) y _ := .move (.read rfl hloop)
  let z := y.setLoop () ⟨.received (longBlock data), rest, .eager⟩
  have hdeadline : Time.after? z.hub.moment.now ((blockPort data).connection ()).requestTimeout =
      some 1000 := by
    change Time.after? 0 ⟨1000⟩ = some 1000
    decide
  have hstamp : Step (blockPort data) z _ := .move (i := ()) (.stamp rfl)
  rw [hdeadline] at hstamp
  have hsubmit : Step (blockPort data) (z.setStage () (.stamped (longBlock data) 1000)) _ :=
    .move (i := ()) (.submit rfl)
  exact ⟨_, .tail (.tail (.single hfirst) hstamp) hsubmit, List.mem_singleton_self _⟩

end

theorem submitted_bounded_longBlock :
    ∃ y : State Unit Unit Unit, Reachable (blockPort (List.replicate 255 0)) .small 0 y ∧
      ∃ s ∈ y.hub.submitted, ∃ context request, s.job = .request context request ∧
        Rtu.IsOverlong request.encode ∧ request.payload.length + 1 = 261 := by
  have hdata : (List.replicate 255 (0 : UInt8)).length = 255 := List.length_replicate
  obtain ⟨y, hreach, hmem⟩ := reachable_longBlock hdata
  obtain ⟨context, request, hjob, hbounds⟩ := (submitted_bounded hreach).2 () _ hmem rfl
  obtain ⟨-, rfl⟩ := Queue.Job.request.inj hjob
  have hlength := (length_longBlock hdata).2
  obtain hshort | ⟨hlong, -⟩ := hbounds
  · rw [hlength] at hshort
    exact absurd hshort (by decide)
  · exact ⟨y, hreach, _, hmem, _, _, rfl, hlong.2, hlength⟩

/-- A frame of 264 octets is read, and 261 of them are submitted. -/
theorem longBlock_submitted :
    (∃ line rest raw, Rtu.readFrame line = (.ok (some raw), rest) ∧ raw.length = 264) ∧
      ∃ y : State Unit Unit Unit, Reachable (blockPort (List.replicate 255 0)) .small 0 y ∧
        ∃ s ∈ y.hub.submitted, ∃ context request, s.job = .request context request ∧
          request.payload.length + 1 = 261 := by
  have hdata : (List.replicate 255 (0 : UInt8)).length = 255 := List.length_replicate
  obtain ⟨hframe, hrequest⟩ := length_longBlock hdata
  obtain ⟨rest, hread⟩ := readFrame_longBlock hdata
  obtain ⟨y, hreach, hmem⟩ := reachable_longBlock hdata
  exact ⟨⟨_, rest, _, hread, hframe⟩, y, hreach, _, hmem, _, _, rfl, hrequest⟩

end Traffic

end Modbus
