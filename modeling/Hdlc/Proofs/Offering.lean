import Hdlc.Proofs.Delivery

/-!
# Offering a frame to a sink

A sink is offered a frame in writes, each of what it has not taken yet, and is asked to flush once
it has taken all. What it answered settles what the call answers: transient failures are passed
over, any other failure is passed on, and a write that takes nothing means that the other end is
closed. Whatever the answers were, the sink has taken the front of the wire form, octet for octet
(`send_accounts_for_every_octet`). Neither what a sink was sent before nor what a buffer still holds
of an earlier frame makes any difference.
-/

namespace Hdlc

namespace Sink

@[simp]
theorem writeCalls_write (offered : Octets) (sink : Sink) :
    (sink.write offered).2.writeCalls = sink.writeCalls + 1 := by
  obtain ⟨_ | ⟨_ | _, _⟩, _, _, _, _⟩ := sink <;> rfl

@[simp]
theorem writeCalls_flush (sink : Sink) : sink.flush.2.writeCalls = sink.writeCalls := by
  obtain ⟨_, _ | ⟨_, _⟩, _, _, _⟩ := sink <;> rfl

/-- Writes in succession, each of which offers all that is not taken yet, with the answers to them,
the octets that are still not taken, and the sink behind them. -/
inductive Offers : Octets → Sink → List (Except Failure Nat) → Octets → Sink → Prop
  | none (octets : Octets) (sink : Sink) : Offers octets sink [] octets sink
  | write {octets rest : Octets} {sink after : Sink} {answers : List (Except Failure Nat)}
      (hlater : Offers (octets.drop ((sink.write octets).1.toOption.getD 0))
        (sink.write octets).2 answers rest after) :
      Offers octets sink ((sink.write octets).1 :: answers) rest after

/-- Flushes in succession, with the answers to them and the sink behind them. -/
inductive Flushes : Sink → List (Except Failure Unit) → Sink → Prop
  | none (sink : Sink) : Flushes sink [] sink
  | flush {sink after : Sink} {answers : List (Except Failure Unit)}
      (hlater : Flushes sink.flush.2 answers after) : Flushes sink (sink.flush.1 :: answers) after

/-- Writes that offer what is not taken yet get the octets through once and in order. -/
theorem Offers.exists_accepted {octets rest : Octets} {sink after : Sink}
    {answers : List (Except Failure Nat)} (hoffers : Offers octets sink answers rest after) :
    ∃ accepted, octets = accepted ++ rest ∧
      after.taken.toList = sink.taken.toList ++ accepted ∧
      after.writeCalls = sink.writeCalls + answers.length ∧
      after.flushCalls = sink.flushCalls := by
  induction hoffers with
  | none octets sink => exact ⟨[], rfl, (List.append_nil _).symm, rfl, rfl⟩
  | @write octets rest sink after answers _ ih =>
      obtain ⟨accepted, hsplit, htaken, hwrites, hflushes⟩ := ih
      refine ⟨octets.take ((sink.write octets).1.toOption.getD 0) ++ accepted, ?_, ?_, ?_, ?_⟩
      · rw [List.append_assoc, ← hsplit, List.take_append_drop]
      · rw [htaken, toList_taken_write, List.append_assoc]
      · rw [hwrites, writeCalls_write, List.length_cons]
        omega
      · rw [hflushes, flushCalls_write]

theorem Flushes.accounts {sink after : Sink} {answers : List (Except Failure Unit)}
    (hflushes : Flushes sink answers after) :
    after.taken = sink.taken ∧ after.writeCalls = sink.writeCalls ∧
      after.flushCalls = sink.flushCalls + answers.length := by
  induction hflushes with
  | none sink => exact ⟨rfl, rfl, rfl⟩
  | @flush sink after answers _ ih =>
      obtain ⟨htaken, hwrites, hcalls⟩ := ih
      refine ⟨by rw [htaken, taken_flush], by rw [hwrites, writeCalls_flush], ?_⟩
      rw [hcalls, flushCalls_flush, List.length_cons]
      omega

/-- An answer behind which a loop does not go on is the last. -/
theorem eq_last_of_mem {α : Type} {goesOn : α → Bool} {answers : List α} {answer last : α}
    (hgoesOn : ∀ answer ∈ answers, goesOn answer) (hmem : answer ∈ answers ++ [last])
    (hends : ¬goesOn answer = true) : answer = last := by
  rcases List.mem_append.mp hmem with hearlier | hlast
  · exact absurd (hgoesOn _ hearlier) hends
  · exact List.mem_singleton.mp hlast

/-- How writing goes on until it ends: the answers to the writes, the octets that are left, and the
answer to the whole. -/
inductive Written : List (Except Failure Nat) → Octets → Except LinkError Unit → Prop
  | all {answers : List (Except Failure Nat)} (htaking : ∀ answer ∈ answers, isTaking answer) :
      Written answers [] (.ok ())
  | nothing {answers : List (Except Failure Nat)} {rest : Octets}
      (htaking : ∀ answer ∈ answers, isTaking answer) (hrest : rest ≠ []) :
      Written (answers ++ [.ok 0]) rest (.error .closed)
  | failed {answers : List (Except Failure Nat)} {rest : Octets} {failure : Failure}
      (htaking : ∀ answer ∈ answers, isTaking answer) (hrest : rest ≠ [])
      (hlasting : failure.IsLasting) :
      Written (answers ++ [.error failure]) rest (.error (.failed failure))

namespace Written

variable {answers : List (Except Failure Nat)} {rest : Octets} {result : Except LinkError Unit}

theorem cons {answer : Except Failure Nat} (hwritten : Written answers rest result)
    (htaking : isTaking answer) : Written (answer :: answers) rest result := by
  cases hwritten with
  | all hlater => exact .all (List.forall_mem_cons.mpr ⟨htaking, hlater⟩)
  | nothing hlater hrest =>
      exact .nothing (List.forall_mem_cons.mpr ⟨htaking, hlater⟩) hrest
  | failed hlater hrest hlasting =>
      exact .failed (List.forall_mem_cons.mpr ⟨htaking, hlater⟩) hrest hlasting

theorem eq_ok_iff (hwritten : Written answers rest result) : result = .ok () ↔ rest = [] := by
  cases hwritten with
  | all => simp
  | nothing _ hrest => simp [hrest]
  | failed _ hrest => simp [hrest]

/-- A failure that is not transient ends writing, and is passed on. -/
theorem of_error_mem {failure : Failure} (hwritten : Written answers rest result)
    (hmem : .error failure ∈ answers) (hlasting : failure.IsLasting) :
    result = .error (.failed failure) ∧ rest ≠ [] := by
  have htransient : ¬isTaking (.error failure) = true := by simp [isTaking, hlasting]
  cases hwritten with
  | all htaking => exact absurd (htaking _ hmem) htransient
  | nothing htaking _ => cases eq_last_of_mem htaking hmem htransient
  | failed htaking hrest =>
      cases eq_last_of_mem htaking hmem htransient
      exact ⟨rfl, hrest⟩

/-- A write that takes nothing ends writing. -/
theorem of_zero_mem (hwritten : Written answers rest result) (hmem : .ok 0 ∈ answers) :
    result = .error .closed ∧ rest ≠ [] := by
  have hidle : ¬isTaking (.ok 0) = true := by decide
  cases hwritten with
  | all htaking => exact absurd (htaking _ hmem) hidle
  | nothing _ hrest => exact ⟨rfl, hrest⟩
  | failed htaking _ => cases eq_last_of_mem htaking hmem hidle

theorem exists_of_error {error : LinkError} (hwritten : Written answers rest (.error error)) :
    error = .closed ∧ .ok 0 ∈ answers ∨
      ∃ failure, error = .failed failure ∧ failure.IsLasting ∧
        .error failure ∈ answers := by
  cases hwritten with
  | nothing => exact .inl ⟨rfl, by simp⟩
  | failed _ _ hlasting => exact .inr ⟨_, rfl, hlasting, by simp⟩

end Written

theorem Offers.write_of_answer {octets rest : Octets} {sink after : Sink}
    {answer : Except Failure Nat} {answers : List (Except Failure Nat)}
    (hanswer : (sink.write octets).1 = answer)
    (hlater : Offers (octets.drop (answer.toOption.getD 0)) (sink.write octets).2 answers rest
      after) : Offers octets sink (answer :: answers) rest after := by
  subst hanswer
  exact .write hlater

/-- The loop makes writes of what is not taken yet, and the last of them settles how it ends. -/
theorem exists_written (octets : Octets) (sink : Sink) :
    ∃ answers rest, Offers octets sink answers rest (sink.writeAll octets).2 ∧
      Written answers rest (sink.writeAll octets).1 := by
  fun_induction writeAll octets sink with
  | case1 sink => exact ⟨[], [], .none [] sink, .all (List.forall_mem_nil _)⟩
  | case2 octets sink hoctets writing hanswer =>
      have hoffers : Offers octets sink [.ok 0] octets writing.2 :=
        .write_of_answer hanswer (.none octets _)
      exact ⟨[.ok 0], octets, hoffers, .nothing (List.forall_mem_nil _) hoctets⟩
  | case3 octets sink _ writing taken hanswer ih =>
      obtain ⟨answers, rest, hoffers, hwritten⟩ := ih
      have htaking : isTaking (.ok (taken + 1)) := decide_eq_true (Nat.succ_pos taken)
      exact ⟨_, rest, hoffers.write_of_answer hanswer, hwritten.cons htaking⟩
  | case4 octets sink _ writing failure hanswer htransient ih =>
      obtain ⟨answers, rest, hoffers, hwritten⟩ := ih
      exact ⟨_, rest, hoffers.write_of_answer hanswer, hwritten.cons (decide_eq_true (Failure.isTransient_iff.mp htransient))⟩
  | case5 octets sink hoctets writing failure hanswer hlasting =>
      have hoffers : Offers octets sink [.error failure] octets writing.2 :=
        .write_of_answer hanswer (.none octets _)
      exact ⟨[.error failure], octets, hoffers,
        .failed (List.forall_mem_nil _) hoctets (Failure.not_isTransient_iff.mp hlasting)⟩

/-- An answer to a flush after which it is tried again. -/
def isRetried : Except Failure Unit → Bool
  | .ok () => false
  | .error failure => ¬failure.IsLasting

/-- How flushing goes on until it ends: the answers to the flushes, and the answer to the whole. -/
inductive Flushed : List (Except Failure Unit) → Except LinkError Unit → Prop
  | done {answers : List (Except Failure Unit)} (hretried : ∀ answer ∈ answers, isRetried answer) :
      Flushed (answers ++ [.ok ()]) (.ok ())
  | failed {answers : List (Except Failure Unit)} {failure : Failure}
      (hretried : ∀ answer ∈ answers, isRetried answer) (hlasting : failure.IsLasting) :
      Flushed (answers ++ [.error failure]) (.error (.failed failure))

namespace Flushed

variable {answers : List (Except Failure Unit)} {result : Except LinkError Unit}

theorem cons {answer : Except Failure Unit} (hflushed : Flushed answers result)
    (hretry : isRetried answer) : Flushed (answer :: answers) result := by
  cases hflushed with
  | done hretried => exact .done (List.forall_mem_cons.mpr ⟨hretry, hretried⟩)
  | failed hretried hlasting =>
      exact .failed (List.forall_mem_cons.mpr ⟨hretry, hretried⟩) hlasting

theorem eq_ok_iff (hflushed : Flushed answers result) : result = .ok () ↔ .ok () ∈ answers := by
  cases hflushed with
  | done => simp
  | failed hretried =>
      refine iff_of_false (by simp) fun hmem => ?_
      cases eq_last_of_mem hretried hmem Bool.false_ne_true

/-- A failure that is not transient ends flushing, and is passed on. -/
theorem of_error_mem {failure : Failure} (hflushed : Flushed answers result)
    (hmem : .error failure ∈ answers) (hlasting : failure.IsLasting) :
    result = .error (.failed failure) := by
  have hlast : ¬isRetried (.error failure) = true := by simp [isRetried, hlasting]
  cases hflushed with
  | done hretried => cases eq_last_of_mem hretried hmem hlast
  | failed hretried =>
      cases eq_last_of_mem hretried hmem hlast
      rfl

theorem exists_of_error {error : LinkError} (hflushed : Flushed answers (.error error)) :
    ∃ failure, error = .failed failure ∧ failure.IsLasting ∧
      .error failure ∈ answers := by
  cases hflushed with
  | failed _ hlasting => exact ⟨_, rfl, hlasting, by simp⟩

end Flushed

theorem Flushes.flush_of_answer {sink after : Sink} {answer : Except Failure Unit}
    {answers : List (Except Failure Unit)} (hanswer : sink.flush.1 = answer)
    (hlater : Flushes sink.flush.2 answers after) : Flushes sink (answer :: answers) after := by
  subst hanswer
  exact .flush hlater

/-- The loop makes flushes, and the last of them settles how it ends. -/
theorem exists_flushed (sink : Sink) :
    ∃ answers, Flushes sink answers sink.flushAll.2 ∧ Flushed answers sink.flushAll.1 := by
  fun_induction flushAll sink with
  | case1 sink flushing hanswer =>
      have hflushes : Flushes sink [.ok ()] flushing.2 := .flush_of_answer hanswer (.none _)
      exact ⟨[.ok ()], hflushes, .done (List.forall_mem_nil _)⟩
  | case2 sink flushing failure hanswer htransient ih =>
      obtain ⟨answers, hflushes, hflushed⟩ := ih
      exact ⟨_, hflushes.flush_of_answer hanswer, hflushed.cons (decide_eq_true (Failure.isTransient_iff.mp htransient))⟩
  | case3 sink flushing failure hanswer hlasting =>
      have hflushes : Flushes sink [.error failure] flushing.2 :=
        .flush_of_answer hanswer (.none _)
      exact ⟨[.error failure], hflushes,
        .failed (List.forall_mem_nil _) (Failure.not_isTransient_iff.mp hlasting)⟩

/-! ## What was before -/

/-- A sink whose account goes on behind that of another. -/
def behind (earlier sink : Sink) : Sink :=
  { sink with
    taken := earlier.taken ++ sink.taken
    writeCalls := earlier.writeCalls + sink.writeCalls
    flushCalls := earlier.flushCalls + sink.flushCalls }

/-- The sink with the answers that it has still to give, and nothing sent to it. -/
def renewed (sink : Sink) : Sink :=
  { writes := sink.writes, flushes := sink.flushes }

theorem behind_renewed (sink : Sink) : sink.behind sink.renewed = sink := by
  simp [behind, renewed]

theorem write_behind (earlier sink : Sink) (offered : Octets) :
    (behind earlier sink).write offered =
      ((sink.write offered).1, behind earlier (sink.write offered).2) := by
  obtain ⟨_ | ⟨_ | _, _⟩, _, _, _, _⟩ := sink <;>
    simp [behind, write, Nat.add_assoc, ← Array.toList_inj]

theorem flush_behind (earlier sink : Sink) :
    (behind earlier sink).flush = (sink.flush.1, behind earlier sink.flush.2) := by
  obtain ⟨_, _ | ⟨_, _⟩, _, _, _⟩ := sink <;> simp [behind, flush, Nat.add_assoc]

theorem writeAll_behind (earlier sink : Sink) (octets : Octets) :
    (behind earlier sink).writeAll octets =
      ((sink.writeAll octets).1, behind earlier (sink.writeAll octets).2) := by
  fun_induction writeAll octets sink with
  | case1 sink => rw [writeAll_nil]
  | case2 octets sink hoctets writing hanswer =>
      rw [writeAll_of_ne_nil hoctets, write_behind, hanswer]
  | case3 octets sink hoctets writing taken hanswer ih =>
      rw [writeAll_of_ne_nil hoctets, write_behind, hanswer]
      exact ih
  | case4 octets sink hoctets writing failure hanswer htransient ih =>
      rw [writeAll_of_ne_nil hoctets, write_behind, hanswer]
      simp only [htransient, if_true]
      exact ih
  | case5 octets sink hoctets writing failure hanswer hlasting =>
      rw [writeAll_of_ne_nil hoctets, write_behind, hanswer]
      simp only [hlasting]
      rfl

theorem flushAll_behind (earlier sink : Sink) :
    (behind earlier sink).flushAll = (sink.flushAll.1, behind earlier sink.flushAll.2) := by
  fun_induction flushAll sink with
  | case1 sink flushing hanswer => rw [flushAll_eq, flush_behind, hanswer]
  | case2 sink flushing failure hanswer htransient ih =>
      rw [flushAll_eq, flush_behind, hanswer]
      simp only [htransient, if_true]
      exact ih
  | case3 sink flushing failure hanswer hlasting =>
      rw [flushAll_eq, flush_behind, hanswer]
      simp only [hlasting]
      rfl

/-- Offer the octets of a buffer from an offset on until all are taken. -/
def writeFrom (buffer : Octets) (offset : Nat) (sink : Sink) : Except LinkError Unit × Sink :=
  if _hoffset : offset < buffer.length then
    let writing := sink.write (buffer.drop offset)
    match _hanswer : writing.1 with
    | .ok 0 => (.error .closed, writing.2)
    | .ok (taken + 1) => writing.2.writeFrom buffer (offset + (taken + 1))
    | .error failure =>
        if failure.isTransient then writing.2.writeFrom buffer offset
        else (.error (.failed failure), writing.2)
  else (.ok (), sink)
termination_by (sink.writes.length, buffer.length - offset)
decreasing_by
  · rcases sink.write_uses_answer (buffer.drop offset) with hless | ⟨-, heq⟩
    · exact .left _ _ hless
    · rw [heq]
      exact .right _ (by omega)
  · rcases sink.write_uses_answer (buffer.drop offset) with hless | ⟨hall, -⟩
    · exact .left _ _ hless
    · rw [_hanswer] at hall
      cases hall

/-- An offset into a buffer stands for what is left of the buffer behind it. -/
theorem writeFrom_eq (buffer : Octets) (offset : Nat) (sink : Sink) :
    sink.writeFrom buffer offset = sink.writeAll (buffer.drop offset) := by
  fun_induction writeFrom buffer offset sink with
  | case1 offset sink hoffset writing hanswer =>
      have hleft : buffer.drop offset ≠ [] := by simpa using hoffset
      rw [writeAll_of_ne_nil hleft, hanswer]
  | case2 offset sink hoffset writing taken hanswer ih =>
      have hleft : buffer.drop offset ≠ [] := by simpa using hoffset
      rw [writeAll_of_ne_nil hleft, hanswer, ih, ← List.drop_drop]
  | case3 offset sink hoffset writing failure hanswer htransient ih =>
      have hleft : buffer.drop offset ≠ [] := by simpa using hoffset
      rw [writeAll_of_ne_nil hleft, hanswer, ih]
      simp only [htransient, if_true]
      rfl
  | case4 offset sink hoffset writing failure hanswer hlasting =>
      have hleft : buffer.drop offset ≠ [] := by simpa using hoffset
      rw [writeAll_of_ne_nil hleft, hanswer]
      simp only [hlasting]
      rfl
  | case5 offset sink hoffset =>
      rw [List.drop_of_length_le (Nat.le_of_not_lt hoffset), writeAll_nil]

end Sink

namespace Writer

/-! ## Sending -/

/-- What offering a wire form to a sink comes to: how its writes and then its flushes were answered,
which octets it accepted and which are left, and what the caller is told. -/
structure Offering (wire : Octets) (sink : Sink) (answer : Except LinkError Unit) (after : Sink)
    (written : List (Except Failure Nat)) (flushed : List (Except Failure Unit))
    (accepted rest : Octets) : Prop where
  wire_eq : wire = accepted ++ rest
  taken : after.taken.toList = sink.taken.toList ++ accepted
  calls : ∃ between, Sink.Offers wire sink written rest between ∧
    Sink.Flushes between flushed after
  writeCalls : after.writeCalls = sink.writeCalls + written.length
  flushCalls : after.flushCalls = sink.flushCalls + flushed.length
  ok_iff : answer = .ok () ↔ rest = [] ∧ .ok () ∈ flushed
  of_write_error : ∀ failure, .error failure ∈ written → failure.IsLasting →
    answer = .error (.failed failure) ∧ rest ≠ [] ∧ flushed = []
  of_write_nothing : .ok 0 ∈ written → answer = .error .closed ∧ rest ≠ [] ∧ flushed = []
  of_flush_error : ∀ failure, .error failure ∈ flushed → failure.IsLasting →
    answer = .error (.failed failure) ∧ rest = []
  /-- No other error is reported, a transient failure least of all. -/
  error : ∀ error, answer = .error error →
    error = .closed ∧ .ok 0 ∈ written ∨
      ∃ failure, error = .failed failure ∧ failure.IsLasting ∧
        (.error failure ∈ written ∨ .error failure ∈ flushed)

namespace Offering

variable {wire rest : Octets} {sink between after : Sink} {written : List (Except Failure Nat)}
  {flushed : List (Except Failure Unit)} {answer : Except LinkError Unit}

/-- Where writing ends with an error, the sink is not asked to flush. -/
theorem of_error {error : LinkError} (hoffers : Sink.Offers wire sink written rest after)
    (hwritten : Sink.Written written rest (.error error)) :
    ∃ accepted, Offering wire sink (.error error) after written [] accepted rest := by
  obtain ⟨accepted, hwire, htaken, hwrites, hflushes⟩ := hoffers.exists_accepted
  refine ⟨accepted, hwire, htaken, ⟨after, hoffers, .none after⟩, hwrites, hflushes, by simp,
    fun failure hmem hlasting => ?_, fun hmem => ?_, by simp, fun _ hanswer => ?_⟩
  · obtain ⟨hanswer, hrest⟩ := hwritten.of_error_mem hmem hlasting
    exact ⟨hanswer, hrest, rfl⟩
  · obtain ⟨hanswer, hrest⟩ := hwritten.of_zero_mem hmem
    exact ⟨hanswer, hrest, rfl⟩
  · cases hanswer
    rcases hwritten.exists_of_error with hclosed | ⟨failure, herror, hlasting, hmem⟩
    · exact .inl hclosed
    · exact .inr ⟨failure, herror, hlasting, .inl hmem⟩

/-- Where all is written, the answer is how flushing ends. -/
theorem of_ok (hoffers : Sink.Offers wire sink written rest between)
    (hwritten : Sink.Written written rest (.ok ())) (hflushes : Sink.Flushes between flushed after)
    (hflushed : Sink.Flushed flushed answer) :
    ∃ accepted, Offering wire sink answer after written flushed accepted rest := by
  obtain ⟨accepted, hwire, htaken, hwrites, hcalls⟩ := hoffers.exists_accepted
  obtain ⟨hsame, hwrites', hcalls'⟩ := hflushes.accounts
  have hrest : rest = [] := hwritten.eq_ok_iff.mp rfl
  refine ⟨accepted, hwire, by rw [hsame, htaken], ⟨between, hoffers, hflushes⟩,
    by rw [hwrites', hwrites], by rw [hcalls', hcalls], ?_, fun failure hmem hlasting => ?_,
    fun hmem => ?_, fun failure hmem hlasting => ?_, fun error hanswer => ?_⟩
  · rw [hflushed.eq_ok_iff, and_iff_right hrest]
  · cases (hwritten.of_error_mem hmem hlasting).1
  · cases (hwritten.of_zero_mem hmem).1
  · exact ⟨hflushed.of_error_mem hmem hlasting, hrest⟩
  · subst hanswer
    obtain ⟨failure, herror, hlasting, hmem⟩ := hflushed.exists_of_error
    exact .inr ⟨failure, herror, hlasting, .inr hmem⟩

end Offering

theorem exists_offering {writer : Writer} {frame : Frame}
    (hlimit : frame.contentSize ≤ writer.limit) (sink : Sink) :
    ∃ written flushed accepted rest,
      Offering frame.encode sink (writer.send frame sink).1 (writer.send frame sink).2 written
        flushed accepted rest := by
  obtain ⟨written, rest, hoffers, hwritten⟩ := sink.exists_written frame.encode
  rcases hwriting : sink.writeAll frame.encode with ⟨error | _, between⟩
  · rw [hwriting] at hoffers hwritten
    rw [send_of_writeAll_error hlimit hwriting]
    obtain ⟨accepted, hoffering⟩ := Offering.of_error hoffers hwritten
    exact ⟨written, [], accepted, rest, hoffering⟩
  · rw [hwriting] at hoffers hwritten
    rw [send_of_writeAll_ok hlimit hwriting]
    obtain ⟨flushed, hflushes, hflushed⟩ := between.exists_flushed
    obtain ⟨accepted, hoffering⟩ := Offering.of_ok hoffers hwritten hflushes hflushed
    exact ⟨written, flushed, accepted, rest, hoffering⟩

/-- What a sink was sent before has no part in how a frame is sent. -/
theorem send_behind (writer : Writer) (frame : Frame) (earlier sink : Sink) :
    writer.send frame (earlier.behind sink) =
      ((writer.send frame sink).1, earlier.behind (writer.send frame sink).2) := by
  rcases Nat.lt_or_ge writer.limit frame.contentSize with hlimit | hlimit
  · rw [send_of_lt hlimit, send_of_lt hlimit]
  have hbehind := Sink.writeAll_behind earlier sink frame.encode
  rcases hwriting : sink.writeAll frame.encode with ⟨error | _, between⟩
  · rw [hwriting] at hbehind
    rw [send_of_writeAll_error hlimit hbehind, send_of_writeAll_error hlimit hwriting]
  · rw [hwriting] at hbehind
    rw [send_of_writeAll_ok hlimit hbehind, send_of_writeAll_ok hlimit hwriting,
      Sink.flushAll_behind]

/-! ## Keeping a buffer -/

/-- A writer that keeps a buffer from one frame to the next. -/
structure Buffered where
  writer : Writer
  buffer : Octets

namespace Buffered

/-- Send a frame from the buffer, which is filled anew. A frame that is refused leaves the buffer as
it was. -/
def send (buffered : Buffered) (frame : Frame) (sink : Sink) :
    Except LinkError Unit × Buffered × Sink :=
  match frame.encodeWithin buffered.writer.limit with
  | .error error => (.error error, buffered, sink)
  | .ok wire =>
      let filled := { buffered with buffer := wire }
      match sink.writeFrom filled.buffer 0 with
      | (.ok (), after) => (after.flushAll.1, filled, after.flushAll.2)
      | (.error error, after) => (.error error, filled, after)

def perform (buffered : Buffered) (sink : Sink) : Call → Except LinkError Unit × Buffered × Sink
  | .send frame => buffered.send frame sink
  | .sendInformation address payload => buffered.send (.information address payload) sink
  | .flush => (sink.flushAll.1, buffered, sink.flushAll.2)
  | .setLimit limit => (.ok (), { buffered with writer := buffered.writer.setLimit limit }, sink)

/-- Make calls one after the other. -/
def run : List Call → Buffered → Sink → List Record × Sink
  | [], _, sink => ([], sink)
  | call :: later, buffered, sink =>
      let (answer, next, after) := buffered.perform sink call
      let (records, last) := run later next after
      (⟨call, answer, sink.flushCalls < after.flushCalls⟩ :: records, last)

theorem send_eq (buffered : Buffered) (frame : Frame) (sink : Sink) :
    (buffered.send frame sink).1 = (buffered.writer.send frame sink).1 ∧
      (buffered.send frame sink).2.1.writer = buffered.writer ∧
      (buffered.send frame sink).2.2 = (buffered.writer.send frame sink).2 := by
  rw [send, Writer.send]
  cases frame.encodeWithin buffered.writer.limit with
  | error error => exact ⟨rfl, rfl, rfl⟩
  | ok wire =>
      dsimp only
      rw [Sink.writeFrom_eq, List.drop_zero]
      rcases sink.writeAll wire with ⟨error | _, after⟩
      · exact ⟨rfl, rfl, rfl⟩
      · exact ⟨rfl, rfl, rfl⟩

/-- What a buffer holds never shows: a call is answered as without it. -/
theorem perform_eq (buffered : Buffered) (sink : Sink) (call : Call) :
    (buffered.perform sink call).1 = (call.perform buffered.writer sink).1 ∧
      (buffered.perform sink call).2.1.writer = (call.perform buffered.writer sink).2.1 ∧
      (buffered.perform sink call).2.2 = (call.perform buffered.writer sink).2.2 := by
  cases call with
  | send frame => exact buffered.send_eq frame sink
  | sendInformation address payload => exact buffered.send_eq (.information address payload) sink
  | flush => exact ⟨rfl, rfl, rfl⟩
  | setLimit limit => exact ⟨rfl, rfl, rfl⟩

theorem run_eq (calls : List Call) (buffered : Buffered) (sink : Sink) :
    run calls buffered sink = Writer.run calls buffered.writer sink := by
  induction calls generalizing buffered sink with
  | nil => rfl
  | cons call later ih =>
      obtain ⟨hanswer, hwriter, hafter⟩ := buffered.perform_eq sink call
      simp only [run, Writer.run, Call.record, ih, hanswer, hwriter, hafter]

end Buffered

/-- A frame beyond the limit is refused, and the sink is left alone. Any other is offered until the
sink has all of it or fails, and what the sink accepts meanwhile is the front of the wire form, each
octet once. That and the answer depend only on what the sink will answer from then on, neither on
what it was sent before nor on what a buffer holds of earlier frames. -/
theorem send_accounts_for_every_octet (writer : Writer) (frame : Frame) (sink : Sink) :
    (writer.limit < frame.contentSize →
      writer.send frame sink =
        (.error (.tooLarge frame.contentSize writer.limit), sink)) ∧
    (frame.contentSize ≤ writer.limit →
      ∃ written flushed accepted rest,
        Offering frame.encode sink (writer.send frame sink).1 (writer.send frame sink).2 written
          flushed accepted rest) ∧
    (writer.send frame sink).1 = (writer.send frame sink.renewed).1 ∧
    (writer.send frame sink).2.taken.toList =
      sink.taken.toList ++ (writer.send frame sink.renewed).2.taken.toList ∧
    ∀ (calls : List Call) (buffer : Octets),
      Buffered.run calls ⟨writer, buffer⟩ sink = run calls writer sink := by
  have hbehind := send_behind writer frame sink sink.renewed
  rw [Sink.behind_renewed] at hbehind
  refine ⟨fun hlimit => send_of_lt hlimit sink, fun hlimit => exists_offering hlimit sink, ?_, ?_,
    fun calls buffer => Buffered.run_eq calls ⟨writer, buffer⟩ sink⟩
  · rw [hbehind]
  · rw [hbehind]
    exact Array.toList_append

/-- The sink, which was sent a flag before, takes a part of the frame, keeps the writer waiting, and
breaks. -/
theorem send_accounts_on_breaking_sink :
    let frame : Frame := ⟨62, ⟨3⟩, [flag, 1]⟩
    let sink : Sink :=
      { writes := [.ok 3, .error (.ofKind .wouldBlock), .ok 2, .error (.ofKind .brokenPipe)],
        flushes := [.error (.ofKind .interrupted)], taken := #[flag], writeCalls := 1 }
    ({ limit := 7 } : Writer).send frame sink = (.error (.tooLarge 8 7), sink) ∧
      ∃ written flushed accepted rest,
        Offering frame.encode sink (({ limit := 8 } : Writer).send frame sink).1
          (({ limit := 8 } : Writer).send frame sink).2 written flushed accepted rest := by
  intro frame sink
  have hsize : frame.contentSize = 8 := by
    simp [frame, Frame.contentSize, Address.size, Address.encode, Address.encodeGroups_of_lt,
      Checksum.size]
  obtain ⟨hrefused, -⟩ := send_accounts_for_every_octet { limit := 7 } frame sink
  obtain ⟨-, hoffered, -⟩ := send_accounts_for_every_octet { limit := 8 } frame sink
  rw [hsize] at hrefused hoffered
  exact ⟨hrefused (by decide), hoffered (Nat.le_refl 8)⟩

end Writer

end Hdlc
