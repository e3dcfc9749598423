import RioGram.Proxies.Procedures

/-!
# Pings, activations and their replies

The extra of a `pingProxy` or `enableProxy` request is made of the id of the proxy alone.  While no two
of them that TDLib has not replied to have the same extra, every reply goes to the call that sent the
request (`run_replies`).

When they have, a reply is taken by every call that waits for the extra: also the late reply to a call
that has been given up (`late_reply_taken`).  `_sendProxyOk` puts the time into its extras.
-/

namespace RioGram.Proxies

open Async Transition

/-- The extra is made of the id of a proxy. -/
def Extra.IsOfProxy : Extra → Prop
  | .ping _ => True
  | .enableProxy _ => True
  | _ => False

def Wait.extra : Wait → Option Extra
  | .call c => some c.extra
  | _ => none

/-- The wait is that of `pingProxy` or of `enableProxy`. -/
def Wait.IsOfProxy (w : Wait) : Prop :=
  ∃ extra, w.extra = some extra ∧ extra.IsOfProxy

/-- No ping or activation that TDLib has not replied to shares its extra with another request, and an
update that is no reply to a request has no such extra. -/
def Unshared (l : Loop Manager Wait Answer) (e : Event Answer Update Command) : Prop :=
  (∀ c ∈ l.calls, ∀ c' ∈ l.calls, c.2.IsOfProxy → c.1 ≠ c'.1 → c.2.extra ≠ c'.2.extra) ∧
  ∀ update, e = .update update none → ∀ extra, update.extra = some extra → ¬ extra.IsOfProxy

lemma extra_of_accepts {w : Wait} {update : Update} (h : w.accepts update) :
    w.extra = update.extra := by
  cases w with
  | call c =>
      simp only [Wait.accepts, Bool.and_eq_true, decide_eq_true_iff] at h
      exact h.1.symm
  | _ => simp [Wait.accepts] at h

lemma isCall_of_isOfProxy {w : Wait} (h : w.IsOfProxy) : w.isCall := by
  rcases h with ⟨extra, hextra, -⟩
  cases w with
  | call c => rfl
  | _ => simp [Wait.extra] at hextra

lemma Unshared.apart {l : Loop Manager Wait Answer} {e : Event Answer Update Command}
    (h : Unshared l e) : l.Apart program Wait.IsOfProxy := by
  intro c hc c' hc' hproxy hne update hacc hacc'
  refine h.1 c hc c' hc' hproxy hne ?_
  rw [extra_of_accepts hacc, extra_of_accepts hacc']

lemma Unshared.noReply {l : Loop Manager Wait Answer} {e : Event Answer Update Command}
    (h : Unshared l e) (update : Update) (he : e = .update update none) (w : Wait)
    (hw : w.IsOfProxy) : ¬ program.accepts w update := by
  rcases hw with ⟨extra, hextra, hproxy⟩
  intro hacc
  refine h.2 update he extra ?_ hproxy
  rw [← extra_of_accepts hacc, hextra]

lemma Unshared.meets {l : Loop Manager Wait Answer} {es : List (Event Answer Update Command)}
    (h : Meets (step program) Unshared l es) :
    Meets (step program) (fun l e => l.Apart program Wait.IsOfProxy ∧
      ∀ u, e = .update u none → ∀ w, Wait.IsOfProxy w → ¬ program.accepts w u) l es :=
  h.mono fun _ _ hok => ⟨hok.apart, hok.noReply⟩

/-- What the call goes on with is the reply to the request that it has sent, or comes from its
timeout. -/
def OwnReply (q : Waiter Manager Wait Answer) : Prop :=
  ∀ a call, q.answer = some (a, call) →
    (call = some q.id ∧ ∃ update, q.wait.accepts update ∧ a = .reply (some update)) ∨
    (call = none ∧ a = .reply none)

lemma ownReply_of_own {q : Waiter Manager Wait Answer} (hproxy : q.wait.IsOfProxy)
    (h : q.Own program) : OwnReply q := by
  intro a call hanswer
  rcases h a call hanswer with hreply | ⟨hcall, hallows⟩
  · exact .inl hreply
  · refine .inr ⟨hcall, ?_⟩
    rcases hproxy with ⟨extra, hextra, -⟩
    cases hw : q.wait with
    | call c =>
        rw [hw] at hallows
        rcases a with ⟨_ | update⟩ | _ | _ | _ | _ <;> simp_all [program, Wait.allows]
    | _ => simp [hw, Wait.extra] at hextra

/-- **Every reply goes to the call that sent the request**, in every run in which no two requests that
TDLib still has to reply to share an extra that is made of a proxy's id. -/
theorem run_replies {m : Manager} {es : List (Event Answer Update Command)}
    {l : Loop Manager Wait Answer} (hrun : run (step program) { shared := m } es = .ok l)
    (hok : Meets (step program) Unshared { shared := m } es) :
    ∀ q ∈ l.waiters, q.wait.IsOfProxy → OwnReply q := by
  intro q hq hproxy
  have hpaired : l.Paired program Wait.IsOfProxy :=
    (run_paired (fun _ => isCall_of_isOfProxy) Loop.paired_idle (Unshared.meets hok)).result hrun
  exact ownReply_of_own hproxy (hpaired.own q hq hproxy)

/-- A manager with one proxy. -/
def onePing : Manager where
  config := { phantomProxy := none, stealthProxy := none }
  proxies := [{ id := 5, name := "PhantomProxy", host := "10.0.0.1", port := 443 }]
  proxyPayloadsById := fun _ => some { server := "10.0.0.1", port := 443, type := .mtproto "" }

/-- The reply to a ping. -/
def pong : Update where
  type := .seconds
  extra := some (.ping 5)

/-- A ping that is replied to. -/
def pinged : List (Event Answer Update Command) := [.start (.testProxy 5), .update pong (some 0)]

/-- The ping gets its reply. -/
theorem run_replies_pinged : ∃ l, run (step program) { shared := onePing } pinged = .ok l ∧
    l.waiters.map (·.answer.map (·.2)) = [some (some 0)] ∧
    ∀ q ∈ l.waiters, q.wait.IsOfProxy → OwnReply q := by
  have hok : Meets (step program) Unshared { shared := onePing } pinged := by
    refine ⟨⟨by simp, by simp⟩, fun t ht => ?_⟩
    rcases Except.ok.inj ht with rfl
    refine ⟨⟨?_, by simp⟩, fun t ht => trivial⟩
    intro c hc c' hc' _ hne
    rcases List.mem_singleton.mp hc with rfl
    rcases List.mem_singleton.mp hc' with rfl
    exact absurd rfl hne
  exact ⟨_, rfl, rfl, run_replies rfl hok⟩

/-- A ping that is given up, another one, and the late reply to the first. -/
def pingedAgain : List (Event Answer Update Command) :=
  [.start (.testProxy 5), .answer 0 (.reply none), .resume 0, .start (.testProxy 5),
    .update pong (some 0)]

/-- The reply to the ping that was given up is taken as the result of the next one. -/
theorem late_reply_taken : ∃ l, run (step program) { shared := onePing } pingedAgain = .ok l ∧
    ¬ ∀ q ∈ l.waiters, q.wait.IsOfProxy → OwnReply q := by
  refine ⟨_, rfl, fun h => ?_⟩
  rcases h _ (List.mem_singleton.mpr rfl) ⟨_, rfl, trivial⟩ _ _ rfl with ⟨hcall, -⟩ | ⟨hcall, -⟩
  · have hfirst : (some 0 : Option ℕ) = some 1 := hcall
    simp at hfirst
  · have hfirst : (some 0 : Option ℕ) = none := hcall
    simp at hfirst

end RioGram.Proxies
