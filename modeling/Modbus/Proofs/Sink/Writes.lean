import Modbus.Sink

namespace Modbus

def Uptake.error? : Uptake → Option ServerError
  | fails fault text => some (.stream fault text)
  | upTo 0 => some .writeZero
  | upTo (_ + 1) => none

namespace Sink

/-- Every write takes something of what it is offered, and every flush succeeds. -/
structure Takes (s : Sink) : Prop where
  write (writes taken offered : Nat) (h : 0 < offered) :
    ∃ n, s.pattern writes taken offered = .upTo (n + 1)
  flush (flushes taken : Nat) : s.flushFault flushes taken = none

structure Gains (s : Sink) (octets : Octets) (s' : Sink) : Prop where
  pattern : s'.pattern = s.pattern
  flushFault : s'.flushFault = s.flushFault
  taken : s'.taken = s.taken + octets.length
  pending : s'.pending = s.pending ++ octets
  flushed : s'.flushed = s.flushed

/-- The sink takes less than it is to take, and then fails a write of what remains. -/
def Refuses (s : Sink) (octets : Octets) (e : ServerError) (s' : Sink) : Prop :=
  ∃ n writes, n < octets.length ∧ s.Gains (octets.take n) s' ∧
    (s.pattern writes s'.taken (octets.length - n)).error? = some e

/-- The sink takes all that it is to take, and then fails to flush it. -/
def Retains (s : Sink) (octets : Octets) (e : ServerError) (s' : Sink) : Prop :=
  s.Gains octets s' ∧ ∃ fault text,
    s.flushFault s'.flushed.length s'.taken = some (fault, text) ∧ e = .stream fault text

inductive Strands (s : Sink) (message : Octets) (e : ServerError) (s' : Sink) : Prop
  | write (h : s.Refuses message e s')
  | flush (h : s.Retains message e s')

structure Sends (s : Sink) (messages : List Octets) (s' : Sink) : Prop where
  pattern : s'.pattern = s.pattern
  flushFault : s'.flushFault = s.flushFault
  taken : s'.taken = s.taken + messages.flatten.length
  pending : s'.pending = []
  flushed : s'.flushed = s.flushed ++ messages

variable {s s' s'' : Sink}

theorem Sends.refl (h : s.pending = []) : s.Sends [] s := by
  constructor <;> simp [h]

theorem Sends.trans {front back : List Octets} (h : s.Sends front s') (h' : s'.Sends back s'') :
    s.Sends (front ++ back) s'' where
  pattern := h'.pattern.trans h.pattern
  flushFault := h'.flushFault.trans h.flushFault
  taken := by rw [h'.taken, h.taken, List.flatten_append, List.length_append, Nat.add_assoc]
  pending := h'.pending
  flushed := by rw [h'.flushed, h.flushed, List.append_assoc]

theorem Gains.trans {front back : Octets} (h : s.Gains front s') (h' : s'.Gains back s'') :
    s.Gains (front ++ back) s'' where
  pattern := h'.pattern.trans h.pattern
  flushFault := h'.flushFault.trans h.flushFault
  taken := by rw [h'.taken, h.taken, List.length_append, Nat.add_assoc]
  pending := by rw [h'.pending, h.pending, List.append_assoc]
  flushed := h'.flushed.trans h.flushed

/-- Messages that were flushed, and octets behind them that were not. -/
theorem Sends.gains {messages : List Octets} {octets : Octets} (h : s.Sends messages s')
    (h' : s'.Gains octets s'') :
    s''.flushed = s.flushed ++ messages ∧ s''.pending = octets ∧
      s''.taken = s.taken + messages.flatten.length + octets.length :=
  ⟨h'.flushed.trans h.flushed, by rw [h'.pending, h.pending, List.nil_append],
    by rw [h'.taken, h.taken]⟩

/-- The message behind those that were flushed is left, in part when a write has failed, and as a
whole when the flush has. -/
theorem Sends.strands_cases {messages : List Octets} {message : Octets} {e : ServerError}
    (h : s.Sends messages s') (h' : s'.Strands message e s'') :
    s''.flushed = s.flushed ++ messages ∧
      s''.taken = s.taken + messages.flatten.length + s''.pending.length ∧
      ((∃ n writes, n < message.length ∧ s''.pending = message.take n ∧
          (s.pattern writes s''.taken (message.length - n)).error? = some e) ∨
        (s''.pending = message ∧ ∃ fault text,
          s.flushFault s''.flushed.length s''.taken = some (fault, text) ∧
            e = .stream fault text)) := by
  cases h' with
  | write hrefuses =>
    obtain ⟨n, writes, hn, hgains, herror⟩ := hrefuses
    obtain ⟨hflushed, hpending, htaken⟩ := h.gains hgains
    rw [h.pattern] at herror
    exact ⟨hflushed, hpending ▸ htaken, .inl ⟨n, writes, hn, hpending, herror⟩⟩
  | flush hretains =>
    obtain ⟨hgains, hfault⟩ := hretains
    obtain ⟨hflushed, hpending, htaken⟩ := h.gains hgains
    rw [h.flushFault] at hfault
    exact ⟨hflushed, hpending ▸ htaken, .inr ⟨hpending, hfault⟩⟩

/-- What a flush makes of octets that were taken since the last one. -/
theorem Gains.flush_cases {octets : Octets} (h : s.Gains octets s') (hpending : s.pending = []) :
    (∃ s'', s'.flush = (.ok (), s'') ∧ s.Sends [octets] s'') ∨
      ∃ e, s'.flush = (.error e, s') ∧ s.Retains octets e s' := by
  unfold flush
  split
  · next fault text hfault =>
    rw [h.flushFault] at hfault
    exact .inr ⟨_, rfl, h, fault, text, hfault, rfl⟩
  · refine .inl ⟨_, rfl, h.pattern, h.flushFault, ?_, rfl, ?_⟩
    · simpa using h.taken
    · simp [h.flushed, h.pending, hpending]

theorem gains_accept (s : Sink) (octets : Octets) : s.Gains octets (s.accept octets) :=
  ⟨rfl, rfl, rfl, rfl, rfl⟩

/-- A refused write has taken nothing. -/
theorem refuses_write (s : Sink) (b : UInt8) (rest : Octets) {e : ServerError}
    (h : (s.pattern s.writes s.taken (rest.length + 1)).error? = some e) :
    s.Refuses (b :: rest) e { s with writes := s.writes + 1 } :=
  ⟨0, s.writes, Nat.succ_pos _, ⟨rfl, rfl, rfl, (List.append_nil _).symm, rfl⟩, h⟩

theorem Refuses.of_gains {octets : Octets} {n : Nat} {e : ServerError}
    (hgains : s.Gains (octets.take n) s') (h : s'.Refuses (octets.drop n) e s'') :
    s.Refuses octets e s'' := by
  obtain ⟨m, writes, hm, hmore, herror⟩ := h
  rw [List.length_drop] at hm herror
  refine ⟨n + m, writes, by omega, ?_, ?_⟩
  · rw [List.take_add]
    exact hgains.trans hmore
  · rw [← hgains.pattern, ← Nat.sub_sub]
    exact herror

/-- Either all is taken, or a part of it and then a write fails. -/
theorem writeAll_cases (s : Sink) (octets : Octets) :
    (∃ s', s.writeAll octets = (.ok (), s') ∧ s.Gains octets s') ∨
      ∃ e s', s.writeAll octets = (.error e, s') ∧ s.Refuses octets e s' := by
  fun_induction writeAll s octets with
  | case1 s => exact .inl ⟨s, rfl, rfl, rfl, rfl, (List.append_nil _).symm, rfl⟩
  | case2 s b rest fault text h =>
    exact .inr ⟨_, _, rfl, refuses_write s b rest (by rw [h]; rfl)⟩
  | case3 s b rest h => exact .inr ⟨_, _, rfl, refuses_write s b rest (by rw [h]; rfl)⟩
  | case4 s b rest n h ih =>
    have hfirst : s.Gains ((b :: rest).take (n + 1)) (s.accept (b :: rest.take n)) :=
      gains_accept s _
    obtain ⟨s', hwrite, hgains⟩ | ⟨e, s', hwrite, hrefuses⟩ := ih
    · have hall := hfirst.trans hgains
      rw [← List.drop_succ_cons, List.take_append_drop] at hall
      exact .inl ⟨s', hwrite, hall⟩
    · exact .inr ⟨e, s', hwrite, .of_gains hfirst hrefuses⟩

/-- A message is sent, or else it is stranded in a write or in the flush. -/
theorem send_cases (hpending : s.pending = []) (message : Octets) :
    (∃ s', s.send message = (.ok (), s') ∧ s.Sends [message] s') ∨
      ∃ e s', s.send message = (.error e, s') ∧ s.Strands message e s' := by
  obtain ⟨mid, hwrite, hgains⟩ | ⟨e, s', hwrite, hrefuses⟩ := s.writeAll_cases message
  · rw [send, hwrite]
    obtain hsent | ⟨e, hflush, hretains⟩ := hgains.flush_cases hpending
    · exact .inl hsent
    · exact .inr ⟨e, mid, hflush, .flush hretains⟩
  · rw [send, hwrite]
    exact .inr ⟨e, s', rfl, .write hrefuses⟩

theorem Takes.not_strands (hs : s.Takes) {message : Octets} {e : ServerError} :
    ¬ s.Strands message e s' := by
  rintro (⟨n, writes, hn, -, herror⟩ | ⟨-, fault, text, hfault, -⟩)
  · obtain ⟨m, htakes⟩ := hs.write writes s'.taken (message.length - n) (Nat.sub_pos_of_lt hn)
    rw [htakes] at herror
    cases herror
  · rw [hs.flush] at hfault
    cases hfault

theorem takes_eager : eager.Takes where
  write _ _ offered h := ⟨offered - 1, congrArg _ (Nat.succ_pred_eq_of_pos h).symm⟩
  flush _ _ := rfl

theorem takes_slow (count : Nat) : (slow (count + 1)).Takes where
  write _ _ _ _ := ⟨count, rfl⟩
  flush _ _ := rfl

/-- However little it takes at a time, in the end a sink has sent all. -/
theorem sends_send (hs : s.Takes) (hpending : s.pending = []) (message : Octets) :
    ∃ s', s.send message = (.ok (), s') ∧ s.Sends [message] s' := by
  obtain hsent | ⟨e, s', -, hstrands⟩ := send_cases hpending message
  · exact hsent
  · exact absurd hstrands hs.not_strands

theorem Sends.takes {messages : List Octets} (h : s.Sends messages s') (hs : s.Takes) :
    s'.Takes where
  write := by
    rw [h.pattern]
    exact hs.write
  flush := by
    rw [h.flushFault]
    exact hs.flush

end Sink

end Modbus
