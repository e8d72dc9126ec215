import Courier.Proofs.TalkRun

/-!
# Answered requests

A request comes to a result only if it can be sent, somebody answers it, and the body of
the answer comes whole. Everything else that can become of it is one kind of failure. The
result is then read off the answer: its status and its body are all that counts, and a body
that is not the text of a JSON value is as good as none.
-/

namespace Courier

theorem Json.asString?_eq_some_iff (v : Json) (s : String) :
    v.asString? = some s ↔ v = .str s := by
  cases v <;> simp [asString?]

namespace HttpAnswer

/-- A member of the body, if the body is an object that has it. -/
def member? (a : HttpAnswer) (name : String) : Option Json :=
  (Json.parse? a.text).bind (·.get? name)

/-- A member of the body that is a text. -/
def textMember? (a : HttpAnswer) (name : String) : Option String :=
  (a.member? name).bind Json.asString?

/-- What an error has to say: its own message, or else the reason of its status. -/
def complaint (a : HttpAnswer) : String := (a.textMember? "message").getD (statusReason a.status)

theorem isSuccess_iff {a : HttpAnswer} :
    a.isSuccess = true ↔ 200 ≤ a.status ∧ a.status < 300 := by
  simp [isSuccess]

theorem member?_eq_some_iff (a : HttpAnswer) (name : String) (v : Json) :
    a.member? name = some v ↔
      ∃ o : Object, Json.parse? a.text = some (.obj o) ∧ Object.get? o name = some v := by
  unfold member?
  constructor
  · intro h
    obtain ⟨body, hbody, hv⟩ := Option.bind_eq_some_iff.1 h
    cases body with
    | obj o => exact ⟨o, hbody, hv⟩
    | _ => cases hv
  · rintro ⟨o, hbody, hv⟩
    rw [hbody]
    exact hv

theorem textMember?_eq_some_iff (a : HttpAnswer) (name s : String) :
    a.textMember? name = some s ↔ a.member? name = some (.str s) := by
  unfold textMember?
  cases a.member? name with
  | none => simp
  | some v => simp [Json.asString?_eq_some_iff]

end HttpAnswer

namespace OperationResult

variable (a : HttpAnswer)

@[simp] theorem ofAnswer_passed (text : String) : (ofAnswer a text).passed = a.isSuccess := by
  unfold ofAnswer
  cases h : a.isSuccess <;> rfl

@[simp] theorem ofAnswer_status (text : String) : (ofAnswer a text).status = a.status := by
  unfold ofAnswer
  cases h : a.isSuccess <;> rfl

@[simp] theorem ofAnswer_data (text : String) : (ofAnswer a text).data = Json.parse? text := by
  unfold ofAnswer
  cases h : a.isSuccess <;> rfl

theorem ofAnswer_message :
    (ofAnswer a a.text).message = if a.isSuccess then "" else a.complaint := by
  unfold ofAnswer
  cases h : a.isSuccess <;> rfl

end OperationResult

namespace Line

variable {ω : Type} {n : Network ω} {l : Line ω} {r : HttpRequest} {a : HttpAnswer}

/-- The request is answered, and the answer is all there. -/
structure Answers (n : Network ω) (l : Line ω) (r : HttpRequest) (a : HttpAnswer) : Prop where
  sendable : r.isSendable = true
  outcome : (n.exchange r l.net).1.outcome = .ok a
  whole : a.truncated = false

/-- What asking comes to. -/
inductive Asking (n : Network ω) (l : Line ω) (r : HttpRequest) :
    Except Failure OperationResult → Prop where
  | answered {a : HttpAnswer} : l.Answers n r a → Asking n l r (.ok (.ofAnswer a a.text))
  | failed {fault : TransportFault} : (∀ a, ¬ l.Answers n r a) →
      Asking n l r (.error (.http fault))

/-- The line when something was asked. -/
def asked (n : Network ω) (r : HttpRequest) (l : Line ω) : Line ω :=
  { (l.exchange n r).2 with now := (l.exchange n r).2.now + (l.exchange n r).1.delay }

theorem Answers.unique {a' : HttpAnswer} (h : l.Answers n r a) (h' : l.Answers n r a') : a = a' :=
  Except.ok.inj (h.outcome.symm.trans h'.outcome)

theorem exchange_of_sendable (h : r.isSendable = true) : l.exchange n r =
    ((n.exchange r l.net).1, { l with net := (n.exchange r l.net).2 }.record (.requested r)) :=
  if_pos h

theorem wire_asked (n : Network ω) (r : HttpRequest) (l : Line ω) :
    (l.asked n r).wire = l.wire ++ r.sent.map .requested := by
  unfold asked exchange HttpRequest.sent
  split
  · rfl
  · exact (List.append_nil _).symm

theorem queueLog_asked (n : Network ω) (r : HttpRequest) (l : Line ω) :
    (l.asked n r).queueLog = l.queueLog := by
  unfold asked exchange
  split <;> rfl

end Line

namespace Talk

variable {ω : Type} {n : Network ω} {l : Line ω} {r : HttpRequest} {a : HttpAnswer}

theorem perform_send (r : HttpRequest) : (send r).perform n l =
    ((l.exchange n r).1.outcome.mapError Failure.http, l.asked n r) := by
  have hexchange : (modifyGet fun l => ((l.exchange n r).1, l.asked n r) : Talk ω _).perform n l =
      (.ok (l.exchange n r).1, l.asked n r) := rfl
  unfold send
  refine (perform_bind_ok perform_network _).trans ((perform_bind_ok hexchange _).trans ?_)
  cases (l.exchange n r).1.outcome <;> rfl

/-- What comes of a request is told by the answer, or is a failure of the transport. -/
theorem perform_operate (r : HttpRequest) : ∃ result,
    (operate r).perform n l = (result, l.asked n r) ∧ l.Asking n r result := by
  have hsend := perform_send (n := n) (l := l) r
  unfold operate
  cases hout : (l.exchange n r).1.outcome with
  | error fault =>
      rw [hout] at hsend
      refine ⟨_, perform_bind_error hsend _, .failed fun a ha => ?_⟩
      rw [Line.exchange_of_sendable ha.sendable] at hout
      exact absurd (hout.symm.trans ha.outcome) (by simp)
  | ok answer =>
      rw [hout] at hsend
      rw [perform_bind_ok hsend]
      cases htext : answer.truncated with
      | true =>
          have hfault : answer.text? = .error ⟨"error decoding response body", false⟩ :=
            if_pos htext
          rw [hfault]
          refine ⟨_, rfl, .failed fun a ha => ?_⟩
          rw [Line.exchange_of_sendable ha.sendable] at hout
          have heq : answer = a := Except.ok.inj (hout.symm.trans ha.outcome)
          rw [heq, ha.whole] at htext
          cases htext
      | false =>
          have hwhole : answer.text? = .ok answer.text :=
            if_neg fun h => by rw [htext] at h; cases h
          have hsendable : r.isSendable = true := by
            cases hr : r.isSendable with
            | true => rfl
            | false =>
                unfold Line.exchange at hout
                rw [hr] at hout
                cases hout
          rw [hwhole]
          refine ⟨_, rfl, .answered ⟨hsendable, ?_, htext⟩⟩
          rw [Line.exchange_of_sendable hsendable] at hout
          exact hout

theorem perform_operate_of_answers (h : l.Answers n r a) :
    (operate r).perform n l = (.ok (.ofAnswer a a.text), l.asked n r) := by
  obtain ⟨result, hp, hasking⟩ := perform_operate (n := n) (l := l) r
  rw [hp]
  cases hasking with
  | answered h' => rw [h.unique h']
  | failed hnone => exact absurd h (hnone a)

theorem answers_of_operate {result : OperationResult}
    (h : ((operate r).perform n l).1 = .ok result) :
    ∃ a, l.Answers n r a ∧ result = .ofAnswer a a.text := by
  obtain ⟨_, hp, hasking⟩ := perform_operate (n := n) (l := l) r
  rw [hp] at h
  cases hasking with
  | answered ha => exact ⟨_, ha, (Except.ok.inj h).symm⟩
  | failed _ => cases h

end Talk
end Courier
