import Mathlib.Data.List.Forall2
import GpuControl.Launch.Recorder
import GpuControl.Proofs.Launch.Encode

namespace GpuControl

/-- A call on a sink, with the sink's answer. -/
inductive SinkCall where
  | submit (ring : UInt8) (words : List UInt32) (answer : Except DriverError UInt32)
  | doorbell (ring : UInt8) (writePtr : UInt32) (answer : Except DriverError Unit)

/-- The sink with a log of the calls that it has answered. -/
def CommandSink.logged {σ : Type} (sink : CommandSink σ) : CommandSink (σ × List SinkCall) where
  submit := fun ring words s =>
    let reply := sink.submit ring words s.1
    (reply.1, reply.2, s.2 ++ [.submit ring words reply.1])
  doorbell := fun ring writePtr s =>
    let reply := sink.doorbell ring writePtr s.1
    (reply.1, reply.2, s.2 ++ [.doorbell ring writePtr reply.1])

/-- Something that a client asks of a dispatcher. -/
inductive Attempt where
  | launch (l : LaunchDescriptor)
  /-- Submits what the client itself encodes. -/
  | submitWith (encode : CommandStream.Edit)

/-- The calls that an attempt makes on the sink, and what the client gets. -/
structure Exchange where
  calls : List SinkCall
  result : Except DriverError DispatchReceipt

namespace Attempt

/-- What the attempt does to a stream. -/
def edit (d : Dispatcher) : Attempt → CommandStream.Edit
  | launch l => l.encodeInto d.map
  | submitWith encode => encode

/-- The words of the attempt, encoded into an empty stream. -/
def encoded (d : Dispatcher) (a : Attempt) : Except DriverError (List UInt32) :=
  match a.edit d d.stream with
  | (.error e, _) => .error e
  | (.ok _, s) => .ok s.words

/-- The attempt appends these packets and nothing else: a launch its own, a client those of its
calls on the stream that succeed and are not cleared again. -/
inductive Appends (d : Dispatcher) : Attempt → List Packet → Prop
  | launch (l : LaunchDescriptor) : Appends d (.launch l) (l.packets d.map.compute)
  | calls {encode : CommandStream.Edit} {calls : List StreamCall}
    (hcalls : (encode d.stream).2 = (StreamHistory.run { stream := d.stream } calls).stream) :
    Appends d (.submitWith encode) (StreamHistory.run { stream := d.stream } calls).kept

/-- The exchanges that an attempt can come to, by its own words and the sink's answers alone. -/
inductive Makes (d : Dispatcher) (a : Attempt) : Exchange → Prop
  | unencoded {e : DriverError} (hencoded : a.encoded d = .error e) : Makes d a ⟨[], .error e⟩
  | refused {words : List UInt32} {e : DriverError} (hencoded : a.encoded d = .ok words) :
    Makes d a ⟨[.submit d.ring words (.error e)], .error e⟩
  | unannounced {words : List UInt32} {e : DriverError} (hencoded : a.encoded d = .ok words)
    (writePtr : UInt32) :
    Makes d a ⟨[.submit d.ring words (.ok writePtr), .doorbell d.ring writePtr (.error e)],
      .error e⟩
  | announced {words : List UInt32} (hencoded : a.encoded d = .ok words) (writePtr : UInt32) :
    Makes d a ⟨[.submit d.ring words (.ok writePtr), .doorbell d.ring writePtr (.ok ())],
      .ok ⟨d.ring, words.length, writePtr⟩⟩

/-- Makes the attempt on a sink. -/
def perform {σ : Type} (d : Dispatcher) (sink : CommandSink σ) :
    Attempt → σ → Except DriverError DispatchReceipt × σ
  | launch l => d.launch sink l
  | submitWith encode => d.submitWith sink encode

variable {d : Dispatcher} {a : Attempt} {σ : Type} {sink : CommandSink σ}

theorem perform_eq_submitWith (d : Dispatcher) (sink : CommandSink σ) (a : Attempt) :
    a.perform d sink = d.submitWith sink (a.edit d) := by
  cases a <;> rfl

/-- One attempt on the logged sink is an exchange, put into the log, and the sink itself does not
notice the log. -/
theorem perform_logged (d : Dispatcher) (sink : CommandSink σ) (a : Attempt) (state : σ)
    (log : List SinkCall) :
    ∃ exchange, a.Makes d exchange ∧ (a.perform d sink state).1 = exchange.result ∧
      a.perform d sink.logged (state, log) =
        (exchange.result, (a.perform d sink state).2, log ++ exchange.calls) := by
  rw [perform_eq_submitWith, perform_eq_submitWith]
  unfold Dispatcher.submitWith
  cases hedit : a.edit d d.stream with
  | mk answer stream =>
    cases answer with
    | error e =>
      have hencoded : a.encoded d = .error e := by
        unfold encoded
        rw [hedit]
      exact ⟨_, .unencoded hencoded, rfl, by simp⟩
    | ok u =>
      have hencoded : a.encoded d = .ok stream.words := by
        unfold encoded
        rw [hedit]
      simp only [CommandSink.logged]
      cases hsubmit : sink.submit d.ring stream.words state with
      | mk answer state₁ =>
        cases answer with
        | error e => exact ⟨_, .refused hencoded, rfl, rfl⟩
        | ok writePtr =>
          simp only
          cases hdoorbell : sink.doorbell d.ring writePtr state₁ with
          | mk answer state₂ =>
            cases answer with
            | error e =>
              refine ⟨_, .unannounced hencoded writePtr, rfl, ?_⟩
              rw [List.append_assoc]
              rfl
            | ok u =>
              rw [← stream.length_words]
              refine ⟨_, .announced hencoded writePtr, rfl, ?_⟩
              rw [List.append_assoc]
              rfl

/-- The words that an attempt encodes are those that it leaves in a fresh stream. -/
theorem edit_of_encoded_ok {words : List UInt32} (hencoded : a.encoded d = .ok words) :
    ∃ stream, a.edit d d.stream = (.ok (), stream) ∧ stream.words = words := by
  unfold encoded at hencoded
  cases hedit : a.edit d d.stream with
  | mk answer stream =>
    rw [hedit] at hencoded
    cases answer with
    | error e => cases hencoded
    | ok u =>
      cases hencoded
      exact ⟨stream, rfl, rfl⟩

/-- An attempt that appends packets submits these and no other words. -/
theorem Appends.encoded_eq {packets : List Packet} {words : List UInt32}
    (happends : Appends d a packets) (hencoded : a.encoded d = .ok words) :
    words = packets.flatMap (Packet.image d.map.shBase) := by
  obtain ⟨stream, hedit, rfl⟩ := edit_of_encoded_ok hencoded
  cases happends with
  | launch l =>
    have hencode : d.encode l = .ok stream := by
      simp only [Dispatcher.encode, show l.encodeInto d.map d.stream = _ from hedit]
    exact (Dispatcher.encode_ok hencode).2.1
  | @calls encode calls hcalls =>
    have hholds := (StreamHistory.holds_new d.capacity d.map.shBase).run calls
    have hstream : stream = (StreamHistory.run { stream := d.stream } calls).stream :=
      (congrArg Prod.snd hedit).symm.trans hcalls
    rw [hstream]
    exact hholds.words_eq

end Attempt

namespace Dispatcher

variable {σ : Type}

/-- Makes attempts one after the other. A client that chooses its next attempt by what has come of
the earlier ones makes, on a given sink, one list of them. -/
def run (d : Dispatcher) (sink : CommandSink σ) :
    List Attempt → σ → List (Except DriverError DispatchReceipt) × σ
  | [], state => ([], state)
  | a :: attempts, state =>
    let first := a.perform d sink state
    let rest := d.run sink attempts first.2
    (first.1 :: rest.1, rest.2)

/-- Attempts on the logged sink put their exchanges into the log, in order. -/
theorem run_logged (d : Dispatcher) (sink : CommandSink σ) (attempts : List Attempt) (state : σ)
    (log : List SinkCall) :
    ∃ exchanges, List.Forall₂ (Attempt.Makes d) attempts exchanges ∧
      (d.run sink attempts state).1 = exchanges.map (·.result) ∧
      d.run sink.logged attempts (state, log) =
        (exchanges.map (·.result), (d.run sink attempts state).2,
          log ++ exchanges.flatMap (·.calls)) := by
  induction attempts generalizing state log with
  | nil => exact ⟨[], .nil, rfl, by simp [run]⟩
  | cons a attempts ih =>
    obtain ⟨exchange, hmakes, hresult, hlogged⟩ := a.perform_logged d sink state log
    obtain ⟨exchanges, hall, hresults, hrest⟩ :=
      ih (a.perform d sink state).2 (log ++ exchange.calls)
    refine ⟨exchange :: exchanges, .cons hmakes hall, ?_, ?_⟩
    · simp only [run, hresult, hresults, List.map_cons]
    · simp only [run, hlogged, hrest, List.map_cons, List.flatMap_cons, List.append_assoc]

/-- Whatever a sink answers, and whatever attempts are made on it through a dispatcher: it answers
as if it kept no log, and the log is the exchanges of the attempts one after the other. An attempt
that cannot be encoded makes no call. Any other submits its own words, announces the pointer
returned if there is one, and succeeds if both calls do; otherwise it fails with the first error.
The words are those of the packets that this attempt appends, whatever other attempts have
encoded. -/
theorem sink_sees_exchanges (d : Dispatcher) (sink : CommandSink σ) (attempts : List Attempt)
    (state : σ) :
    let plain := d.run sink attempts state
    let logged := d.run sink.logged attempts (state, [])
    logged.1 = plain.1 ∧ logged.2.1 = plain.2 ∧
    (∃ exchanges, List.Forall₂ (Attempt.Makes d) attempts exchanges ∧
      exchanges.map (·.result) = plain.1 ∧ exchanges.flatMap (·.calls) = logged.2.2) ∧
    ∀ a ∈ attempts, ∀ packets words, a.Appends d packets → a.encoded d = .ok words →
      words = packets.flatMap (Packet.image d.map.shBase) := by
  intro plain logged
  obtain ⟨exchanges, hmakes, hresults, hlogged⟩ := d.run_logged sink attempts state []
  have hlogged : logged = _ := hlogged
  rw [hlogged]
  exact ⟨hresults.symm, rfl, ⟨exchanges, hmakes, hresults.symm, rfl⟩,
    fun a _ packets words happends => happends.encoded_eq⟩

/-- Of a launch that is taken, one that cannot be encoded and one that finds the ring full, the
first alone is announced. -/
example :
    (sample.run (Recorder.sink (some 1) false) [.launch sampleLaunch,
      .launch { sampleLaunch with program := 0x80 }, .launch sampleLaunch] {}).2.doorbells =
      [(1, 38)] := by decide +kernel

end Dispatcher

end GpuControl
