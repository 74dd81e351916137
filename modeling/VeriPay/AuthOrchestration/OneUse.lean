import VeriPay.Lib.OneUse
import VeriPay.AuthOrchestration.Timeout

/-!
One-use and binding of verification tokens. Under fresh session ids every run of
the service is a run of one-use tickets: a session is a ticket under the digest
of its token, a creation opens it and a returning completion spends it.
-/

namespace VeriPay.AuthOrchestration.VerificationService

open Lib Common

/-- The id a creation files its session under. -/
def Call.newSession : Call → Option String
  | .create env _ => some (sessionIdOf env.sessionUuid).val
  | .complete .. => none
  | .expire .. => none

/-- No session uuid is drawn twice. -/
def FreshUuids (calls : List Call) : Prop := (calls.filterMap Call.newSession).Nodup

def ticket (session : VerificationSession) : OneUse.Ticket String :=
  if session.outcome = .pending then .opened session.tokenDigest else .spent session.tokenDigest

def book (repository : InMemoryVerificationRepository) : OneUse.Book String String :=
  fun id => (repository.get id).map ticket

abbrev CallEvent := Machine.Event InMemoryVerificationRepository Call Answer

variable (service : VerificationService)

/-- The ticket move a call makes. -/
def moveOf (e : CallEvent) : OneUse.Move String String :=
  match e.call, e.answer with
  | .create env request, _ =>
    match service.buildSession env request with
    | .ok built => .open built.1.sessionId.val built.1.tokenDigest
    | .error _ => .idle
  | .complete _ sessionId request, .completed (.ok _) =>
    .spend sessionId (service.sha256Hex request.token.val)
  | _, _ => .idle

theorem ticket_of_pending {session : VerificationSession} (h : session.outcome = .pending) :
    ticket session = .opened session.tokenDigest := if_pos h

theorem ticket_of_settled {session : VerificationSession} (h : session.outcome ≠ .pending) :
    ticket session = .spent session.tokenDigest := if_neg h

theorem book_save (repository : InMemoryVerificationRepository) (session : VerificationSession) :
    book (repository.save session) =
      Function.update (book repository) session.sessionId.val (some (ticket session)) := by
  funext id
  by_cases hid : id = session.sessionId.val
  · subst hid
    rw [Function.update_self, book, InMemoryVerificationRepository.get_save_self]
    rfl
  · rw [Function.update_of_ne hid, book, InMemoryVerificationRepository.get_save_of_ne _ _ hid]
    rfl

/-- Every call is the move it makes, when a creation draws a fresh id. -/
theorem step_refines (repository : InMemoryVerificationRepository) (call : Call)
    (hfresh : ∀ id, call.newSession = some id → repository.get id = none) :
    OneUse.Step (book repository) (service.moveOf (service.machine.event repository call))
      (book (service.machine.next repository call)) := by
  cases call with
  | create env request =>
    rw [next_create]
    cases hbuild : service.buildSession env request with
    | error e =>
      simp only [moveOf, Machine.event, hbuild, service.exec_createSession_error hbuild]
      exact .idle _
    | ok built =>
      obtain ⟨hid, hpending, _⟩ := service.buildSession_spec hbuild
      simp only [moveOf, Machine.event, hbuild, service.exec_createSession_ok hbuild, book_save,
        ticket_of_pending hpending]
      apply OneUse.Step.open
      rw [book, hid, hfresh _ rfl]
      rfl
  | complete env sessionId request =>
    cases hanswer : (Effect.exec (service.completeSession env sessionId request) repository).1 with
    | error e =>
      have hmove : service.moveOf
          (service.machine.event repository (.complete env sessionId request)) = .idle := by
        simp only [moveOf, Machine.event, machine, step, hanswer]
      rw [hmove, next_complete, service.completeSession_clean env sessionId request _ _ hanswer]
      exact .idle _
    | ok result =>
      have hmove : service.moveOf
          (service.machine.event repository (.complete env sessionId request)) =
            .spend sessionId (service.sha256Hex request.token.val) := by
        simp only [moveOf, Machine.event, machine, step, hanswer]
      obtain ⟨session, exit, hget, ⟨hpending, hdigest, _⟩, hsettle, hsave⟩ :=
        service.completeSession_returns hanswer
      obtain ⟨hcontinues, hsettled⟩ := service.settlement_spec hsettle
      have hid : exit.1.sessionId.val = sessionId := by
        rw [hcontinues.sessionId_eq]
        exact repository.filed hget
      rw [hmove, next_complete, hsave, book_save, ticket_of_settled hsettled,
        hcontinues.tokenDigest_eq, hid, ← hdigest]
      apply OneUse.Step.spend
      rw [book, hget, Option.map_some, ticket_of_pending hpending, hdigest]
  | expire env sessionId =>
    rw [next_expire]
    exact .idle _

/-- The sessions stored after a run carry ids its creations drew. -/
theorem mem_newSession_of_stored (calls : List Call) {sessionId : String}
    {session : VerificationSession} (h : (service.after calls).get sessionId = some session) :
    sessionId ∈ calls.filterMap Call.newSession := by
  obtain ⟨token, env, request, created, hmem, hbuild, hcontinues⟩ :=
    service.exists_ownToken calls h
  have hid : sessionId = (sessionIdOf env.sessionUuid).val := by
    rw [← (service.after calls).filed h, hcontinues.sessionId_eq,
      (service.buildSession_spec hbuild).1]
  rw [List.mem_filterMap]
  exact ⟨_, hmem, by rw [hid]; rfl⟩

theorem get_of_fresh {pre post : List Call} {call : Call}
    (hfresh : FreshUuids (pre ++ call :: post)) {id : String} (hid : call.newSession = some id) :
    (service.after pre).get id = none := by
  rw [Option.eq_none_iff_forall_ne_some]
  intro session hget
  have hmem := service.mem_newSession_of_stored pre hget
  rw [FreshUuids, List.filterMap_append, List.filterMap_cons_some hid] at hfresh
  exact (List.nodup_append.mp hfresh).2.2 id hmem id List.mem_cons_self rfl

/-- A run of the service is a run of its tickets. -/
theorem run_refines (pre post : List Call) (hfresh : FreshUuids (pre ++ post)) :
    OneUse.Run (book (service.after pre))
      ((service.machine.trace (service.after pre) post).map service.moveOf)
      (book (service.after (pre ++ post))) := by
  induction post generalizing pre with
  | nil =>
    rw [List.append_nil]
    exact .nil _
  | cons call rest ih =>
    have hstep := service.step_refines (service.after pre) call
      (fun id hid => service.get_of_fresh hfresh hid)
    have hnext : service.machine.next (service.after pre) call = service.after (pre ++ [call]) :=
      (service.machine.run_concat .empty pre call).symm
    have hrest := ih (pre ++ [call]) (by simpa using hfresh)
    rw [← hnext, List.append_assoc] at hrest
    exact .cons hstep hrest

/-- The event completes the session: the call returns, having presented `token`. -/
def Completes (e : CallEvent) (sessionId : String) (token : Token) : Prop :=
  ∃ env request result, e.call = .complete env sessionId request ∧
    request.token.val = token ∧ e.answer = .completed (.ok result)

/-- The event creates the session with its token, and returns both unless the
push provider raises. -/
def Issues (e : CallEvent) (sessionId : String) (token : Token) : Prop :=
  ∃ env request session, e.call = .create env request ∧
    service.buildSession env request = .ok (session, token) ∧ session.sessionId.val = sessionId ∧
    (e.answer = .created (.ok (session, token)) ∨ ∃ error, env.dispatch session = .error error)

theorem moveOf_of_completes {e : CallEvent} {sessionId : String} {token : Token}
    (h : Completes e sessionId token) :
    service.moveOf e = .spend sessionId (service.sha256Hex token) := by
  obtain ⟨env, request, result, hcall, rfl, hanswer⟩ := h
  simp only [moveOf, hcall, hanswer]

/-- An opening move is a creation of the run, which issues the token. -/
theorem issues_of_moveOf (hdigest : Function.Injective service.sha256Hex)
    {repository : InMemoryVerificationRepository} {call : Call} {sessionId : String}
    {token : Token}
    (h : service.moveOf (service.machine.event repository call) =
      .open sessionId (service.sha256Hex token)) :
    service.Issues (service.machine.event repository call) sessionId token := by
  cases call with
  | create env request =>
    cases hbuild : service.buildSession env request with
    | error e =>
      simp only [moveOf, Machine.event, hbuild] at h
      cases h
    | ok built =>
      simp only [moveOf, Machine.event, hbuild, OneUse.Move.open.injEq] at h
      obtain ⟨hid, htoken⟩ := h
      rw [(service.buildSession_spec hbuild).2.2.1] at htoken
      have hissued : built = (built.1, token) := by rw [← hdigest htoken]
      refine ⟨env, request, built.1, rfl, hissued ▸ hbuild, hid, ?_⟩
      simp only [Machine.event, machine, step, service.exec_createSession_ok hbuild]
      by_cases htier : request.riskTier = .noRisk
      · left
        rw [if_neg (not_not_intro htier), ← hissued]
      · rw [if_pos htier]
        cases hdispatch : env.dispatch built.1 with
        | ok _ =>
          left
          rw [← hissued]
          rfl
        | error error => exact Or.inr ⟨error, rfl⟩
  | complete env id request =>
    cases hanswer : (Effect.exec (service.completeSession env id request) repository).1 with
    | error e =>
      simp only [moveOf, Machine.event, machine, step, hanswer] at h
      cases h
    | ok result =>
      simp only [moveOf, Machine.event, machine, step, hanswer] at h
      cases h
  | expire env id => cases h

/-- A completed session is the one its token was issued for. -/
theorem completes_of_issues (hcodec : service.signer.codec.Faithful) {calls : List Call}
    {completion creation : CallEvent} {completed issued : String} {token : Token}
    (hmem : completion ∈ service.machine.trace .empty calls)
    (hcompletes : Completes completion completed token)
    (hissues : service.Issues creation issued token) : completed = issued := by
  obtain ⟨pre, call, post, _, rfl⟩ := (service.machine.mem_trace_iff _ _ _).mp hmem
  obtain ⟨env, request, result, rfl, rfl, hanswer⟩ := hcompletes
  have hreturns : (Effect.exec (service.completeSession env completed request)
      (service.after pre)).1 = .ok result := Answer.completed.inj hanswer
  obtain ⟨session, exit, hget, ⟨_, _, claims, hverify, hmatch⟩, _⟩ :=
    service.completeSession_returns hreturns
  obtain ⟨env', request', session', _, hbuild, hid, _⟩ := hissues
  obtain ⟨hsession, _, _, signed, parsed, hsigned, hissue, hparsed, _⟩ :=
    service.buildSession_spec hbuild
  have hparse := ((service.signer.verify_eq_ok_iff _ _ _).mp hverify).1
  have hclaims := service.signer.parse_issue hcodec hissue hparse
  have hsame : claims.sessionId = session.sessionId := by
    simp only [claimsMismatch, decide_eq_false_iff_not, not_or, not_not] at hmatch
    exact hmatch.1
  have hsignedId : signed.sessionId = sessionIdOf env'.sessionUuid := by
    obtain ⟨_, _, hsigned⟩ := Py.bind_eq_ok.mp hsigned
    obtain ⟨_, _, hsigned⟩ := Py.bind_eq_ok.mp hsigned
    cases hsigned
    rfl
  have hclaimsId : claims.sessionId = signed.sessionId := by
    rw [← hclaims]
  rw [← (service.after pre).filed hget, ← hid, ← hsame, hclaimsId, hsignedId, hsession]

/-- A fresh call keeps a stored session, up to the fields a completion assigns,
and a settled one entirely. -/
theorem next_get {repository : InMemoryVerificationRepository} {call : Call} {id : String}
    {session : VerificationSession}
    (hfresh : ∀ new, call.newSession = some new → repository.get new = none)
    (hget : repository.get id = some session) :
    ∃ later, (service.machine.next repository call).get id = some later ∧
      later.Continues session ∧ (session.outcome ≠ .pending → later = session) := by
  rcases service.next_cases repository call with hsame | ⟨env, request, built, rfl, hbuild, hsave⟩ |
    ⟨settled, ⟨env, sessionId, request, stored, reason, rfl, hstored, hpresents, hsettle⟩, hsave⟩
  · exact ⟨session, by rw [hsame, hget], .refl _, fun _ => rfl⟩
  · have hne : id ≠ built.1.sessionId.val := by
      intro heq
      have hnone := hfresh id (by rw [heq, (service.buildSession_spec hbuild).1]; rfl)
      rw [hget] at hnone
      cases hnone
    rw [hsave, InMemoryVerificationRepository.get_save_of_ne _ _ hne]
    exact ⟨session, hget, .refl _, fun _ => rfl⟩
  · obtain ⟨hcontinues, _⟩ := service.settlement_spec hsettle
    have hid : settled.sessionId.val = sessionId := by
      rw [hcontinues.sessionId_eq]
      exact repository.filed hstored
    rw [hsave]
    by_cases heq : id = settled.sessionId.val
    · rw [heq, hid, hstored] at hget
      cases hget
      rw [heq, InMemoryVerificationRepository.get_save_self]
      exact ⟨settled, rfl, hcontinues, fun hsettled => absurd hpresents.1 hsettled⟩
    · rw [InMemoryVerificationRepository.get_save_of_ne _ _ heq]
      exact ⟨session, hget, .refl _, fun _ => rfl⟩

/-- The same over the rest of a run. -/
theorem after_get (pre post : List Call) (hfresh : FreshUuids (pre ++ post)) {id : String}
    {session : VerificationSession} (hget : (service.after pre).get id = some session) :
    ∃ later, (service.after (pre ++ post)).get id = some later ∧
      later.Continues session ∧ (session.outcome ≠ .pending → later = session) := by
  induction post generalizing pre session with
  | nil =>
    rw [List.append_nil]
    exact ⟨session, hget, .refl _, fun _ => rfl⟩
  | cons call rest ih =>
    obtain ⟨middle, hmiddle, hcontinues, hstable⟩ := service.next_get
      (fun new hnew => service.get_of_fresh hfresh hnew) hget
    have hnext : (service.after (pre ++ [call])).get id = some middle := by
      rw [after, Machine.run_concat]
      exact hmiddle
    obtain ⟨later, hlater, hcontinues', hstable'⟩ :=
      ih (pre ++ [call]) (by simpa using hfresh) hnext
    rw [List.append_assoc] at hlater
    refine ⟨later, hlater, hcontinues'.trans hcontinues, ?_⟩
    intro hsettled
    have hsame := hstable hsettled
    rw [hsame] at hstable'
    exact hstable' hsettled

/-- What a run may do with its sessions and their tokens. -/
structure TokenDiscipline (calls : List Call) : Prop where
  /-- At most one completion of a session returns. -/
  completed_once : (service.machine.trace .empty calls).Pairwise (fun earlier later =>
    ∀ sessionId token token', Completes earlier sessionId token →
      ¬ Completes later sessionId token')
  /-- It presented the token that the session's creation issued. -/
  completed_by_own_token : ∀ e ∈ service.machine.trace .empty calls, ∀ sessionId token,
    Completes e sessionId token →
      ∃ created ∈ service.machine.trace .empty calls, service.Issues created sessionId token
  /-- The token of a session completes no other one. -/
  token_bound : ∀ created ∈ service.machine.trace .empty calls,
    ∀ e ∈ service.machine.trace .empty calls, ∀ issued completed token,
      service.Issues created issued token → Completes e completed token → completed = issued
  settled_stable : ∀ pre post, calls = pre ++ post → ∀ sessionId session,
    (service.after pre).get sessionId = some session → session.outcome ≠ .pending →
      (service.after calls).get sessionId = some session
  /-- Only the outcome, the lock and the escalation flag of a session change. -/
  fields_stable : ∀ pre post, calls = pre ++ post → ∀ sessionId session,
    (service.after pre).get sessionId = some session →
      ∃ later, (service.after calls).get sessionId = some later ∧ later.Continues session
  /-- A completion or an expiration that raises changes nothing. -/
  raise_clean : ∀ e ∈ service.machine.trace .empty calls, ∀ error,
    e.answer = .completed (.error error) → e.after = e.before

theorem raise_keeps {repository : InMemoryVerificationRepository} {call : Call} {error : PyErr}
    (h : (service.machine.event repository call).answer = .completed (.error error)) :
    service.machine.next repository call = repository := by
  cases call with
  | create env request => cases h
  | complete env sessionId request =>
    rw [next_complete]
    exact service.completeSession_clean env sessionId request _ _ (Answer.completed.inj h)
  | expire env sessionId => exact service.next_expire repository env sessionId

/-- One use, binding and clean failure, over every run with fresh session ids. -/
theorem tokenDiscipline (hdigest : Function.Injective service.sha256Hex)
    (hcodec : service.signer.codec.Faithful) (calls : List Call) (hfresh : FreshUuids calls) :
    service.TokenDiscipline calls := by
  have hrun := service.run_refines [] calls hfresh
  refine ⟨?_, ?_, ?_, ?_, ?_, ?_⟩
  · have hspends := List.pairwise_map.mp hrun.spend_once
    refine hspends.imp ?_
    intro earlier later honce sessionId token token' hearlier hlater
    exact honce _ _ _ (service.moveOf_of_completes hearlier) (service.moveOf_of_completes hlater)
  · intro e he sessionId token hcompletes
    have hmove := List.mem_map_of_mem (f := service.moveOf) he
    rw [service.moveOf_of_completes hcompletes] at hmove
    obtain ⟨pre, post, hmoves⟩ := List.append_of_mem hmove
    change OneUse.Run _ ((service.machine.trace .empty calls).map service.moveOf) _ at hrun
    rw [hmoves] at hrun
    rcases hrun.spend_opened with ⟨ticket, hticket, _⟩ | hopened
    · cases hticket
    · have hmem : .open sessionId (service.sha256Hex token) ∈
          (service.machine.trace .empty calls).map service.moveOf := by
        rw [hmoves]
        exact List.mem_append_left _ hopened
      obtain ⟨created, hcreated, hopen⟩ := List.mem_map.mp hmem
      refine ⟨created, hcreated, ?_⟩
      obtain ⟨before, call, _, _, rfl⟩ := (service.machine.mem_trace_iff _ _ _).mp hcreated
      exact service.issues_of_moveOf hdigest hopen
  · intro created _ e he issued completed token hissues hcompletes
    exact service.completes_of_issues hcodec he hcompletes hissues
  · rintro pre post rfl sessionId session hget hsettled
    obtain ⟨later, hlater, _, hstable⟩ := service.after_get pre post hfresh hget
    rw [hlater, hstable hsettled]
  · rintro pre post rfl sessionId session hget
    obtain ⟨later, hlater, hcontinues, _⟩ := service.after_get pre post hfresh hget
    exact ⟨later, hlater, hcontinues⟩
  · intro e he error hanswer
    obtain ⟨before, call, _, _, rfl⟩ := (service.machine.mem_trace_iff _ _ _).mp he
    exact service.raise_keeps hanswer

end VeriPay.AuthOrchestration.VerificationService

namespace VeriPay.AuthOrchestration

open Lib Lib.Base64 Common

theorem highService_sha256Hex_injective : Function.Injective highService.sha256Hex := by
  intro a b h
  exact (Equiv.swap highToken highDigest.toList).injective (String.ofList_injective h)

theorem highBody_ne_nil : highBody ≠ [] := by
  simp only [highBody, asciiBytes, ne_eq, List.map_eq_nil_iff, String.toList_eq_nil_iff,
    String.append_eq_empty_iff]
  decide

theorem highCodec_faithful : highService.signer.codec.Faithful := by
  intro claims loaded h
  change highCodec.loads (highCodec.dumps claims) = .ok loaded at h
  by_cases hclaims : claims = highClaims
  · subst hclaims
    simp only [highCodec, if_true, Except.ok.injEq] at h
    rw [← h]
  · simp only [highCodec, if_neg hclaims, if_neg highBody_ne_nil.symm] at h
    cases h

/-- The evidence of the `HIGH` tier, complete. -/
def highApproval : VerificationCompletionRequest where
  token := ⟨highToken, highToken_ne_nil⟩
  outcome := .approved
  exactAmountMinor := some 12345
  exactCurrency := some ⟨"eur", by decide⟩
  biometricAssertion := some "valid-biometric-assertion"
  confirmationSwipe := true

theorem highApproval_settlement :
    highService.settlement highCompletion highSession highApproval =
      .ok (highSession.settled .approved, "VERIFICATION_APPROVED") := by
  have hlate : VerificationService.expired highCompletion highSession = .ok false := by rfl
  have hcurrency : highService.upper ((highApproval.exactCurrency.map Subtype.val).getD "") =
      highSession.currency.val := by decide
  have hbiometric : VerificationService.biometricError highCompletion highSession highApproval =
      .ok none := by rfl
  have hworkflow : highService.validateWorkflow highCompletion highSession highApproval =
      .ok none := by
    rw [VerificationService.validateWorkflow, if_neg (by decide), if_neg (by decide)]
    change (if highApproval.exactAmountMinor ≠ some highSession.amountMinor then _ else _) = _
    rw [if_neg (by decide), if_neg (not_not_intro hcurrency), hbiometric]
    rfl
  simp only [VerificationService.settlement, hlate, hworkflow, Py.ok_bind]
  rfl

/-- The complete evidence approves the session once, and its token is spent. -/
theorem tokenDiscipline_highApproval :
    (∃ result, (Effect.exec (highService.completeSession highCompletion
      "verify_00000000000000000000000000000001" highApproval)
        (highService.after [.create highCreation highRequest])).1 = .ok result) ∧
      highService.TokenDiscipline
        [.create highCreation highRequest,
          .complete highCompletion "verify_00000000000000000000000000000001" highApproval,
          .complete highCompletion "verify_00000000000000000000000000000001" highApproval] := by
  constructor
  · rw [highService.exec_completeSession_of_settlement highSession_stored
      (highSession_presents highCompletion highApproval rfl (by rfl)) highApproval_settlement]
    exact ⟨_, rfl⟩
  · exact highService.tokenDiscipline highService_sha256Hex_injective highCodec_faithful _
      (List.pairwise_singleton _ _)

end VeriPay.AuthOrchestration
