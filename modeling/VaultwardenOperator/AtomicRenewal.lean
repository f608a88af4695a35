import VaultwardenOperator.ClientSteps

/-!
# Renewals that end half-way

`do_refresh_or_reauth` replaces the access token before it computes the new expiry from
the seconds that the server sent, and that sum is not checked. A renewal replaces all
its fields from one answer, or none, exactly when the seconds of the answer that it
accepts stay in the range of an instant.

The function is a composition of the two writes. Other tasks may run between its await
points, so the refresh token that it sent and the session that it writes are apart.
-/

namespace VaultwardenOperator.AtomicRenewal

open Rust Crypto Auth Machine VaultClient ClientSteps

/-- The seconds from now on are in the range of an instant. -/
def InRange (now : Nat) (seconds : UInt64) : Prop := now / secondNs + seconds.toNat < 2 ^ 63

instance (now : Nat) (seconds : UInt64) : Decidable (InRange now seconds) :=
  inferInstanceAs (Decidable (_ < _))

/-- The fields of a session that a token response gives. An empty refresh token was not
rotated, and a grant has no key. -/
structure FromGrant (now : Nat) (before after : Session) (token : TokenResponse) : Prop where
  accessToken : after.accessToken = token.accessToken
  refreshToken : after.refreshToken =
    if token.refreshToken = "" then before.refreshToken else token.refreshToken
  tokenExpiresAt : after.tokenExpiresAt = now + token.expiresIn.toNat * secondNs
  symKey : after.symKey = before.symKey

/-- The fields of a session that a full login gives. -/
structure FromLogin (now : Nat) (after : Session) (login : Login) : Prop where
  accessToken : after.accessToken = login.accessToken
  refreshToken : after.refreshToken = login.refreshToken
  tokenExpiresAt : after.tokenExpiresAt = now + login.expiresIn.toNat * secondNs
  symKey : after.symKey = login.symKey

section
variable {RsaPrivateKey : Type} (client : Client RsaPrivateKey)

/-- `re_authenticate`. -/
def reAuthenticate (now : Nat) (session : Session) (answers : LoginAnswers) :
    Session × Call AuthError Unit :=
  match authenticate client.crypto client.unicode client.email client.password answers with
  | .ok login => installLogin now session login
  | .error halt => (session, .error halt)

/-- `do_refresh_or_reauth`, with the refresh token it read and the session it finds at
its write. -/
def doRefreshOrReauth (now : Nat) (session : Session) (currentRt : String)
    (answer : Answer TokenResponse) (answers : LoginAnswers) : Session × Call AuthError Unit :=
  match refreshToken currentRt answer with
  | .ok grant => installGrant now session grant
  | .error _ => reAuthenticate client now session answers

/-- The session is as it was, or all its fields come from the one answer that the renewal
accepted: the grant, or the login that follows a refused grant. -/
def AllOrNothing (now : Nat) (before after : Session) (currentRt : String)
    (answer : Answer TokenResponse) (answers : LoginAnswers) : Prop :=
  after = before ∨
    (currentRt ≠ "" ∧ ∃ token, answer = .body token ∧ FromGrant now before after token) ∨
    ((∃ error, refreshToken currentRt answer = .error error) ∧
      ∃ login, authenticate client.crypto client.unicode client.email client.password answers =
        .ok login ∧ FromLogin now after login)

/-- A renewal that does not panic, replaces everything from one answer or nothing, and
leaves the cache and the time of its last refresh. -/
structure Atomic (now : Nat) (session : Session) (currentRt : String)
    (answer : Answer TokenResponse) (answers : LoginAnswers) : Prop where
  returns : (doRefreshOrReauth client now session currentRt answer answers).2 ≠ .error .panic
  replaced : AllOrNothing client now session
    (doRefreshOrReauth client now session currentRt answer answers).1 currentRt answer answers
  vault : (doRefreshOrReauth client now session currentRt answer answers).1.vault = session.vault
  lastRefreshAt : (doRefreshOrReauth client now session currentRt answer answers).1.lastRefreshAt =
    session.lastRefreshAt

/-- The seconds of the accepted answer stay in range: those of the grant, and those of the
login when there is no grant. -/
structure ExpiryInRange (now : Nat) (currentRt : String) (answer : Answer TokenResponse)
    (answers : LoginAnswers) : Prop where
  grant : ∀ token, currentRt ≠ "" → answer = .body token → InRange now token.expiresIn
  login : (currentRt = "" ∨ ∀ token, answer ≠ .body token) → ∀ login,
    authenticate client.crypto client.unicode client.email client.password answers = .ok login →
      InRange now login.expiresIn

end

/-! ## The two writes -/

theorem instant_in_range (now : Nat) (seconds : UInt64) (inRange : InRange now seconds) :
    instantAfter now seconds = some (now + seconds.toNat * secondNs) := if_pos inRange

theorem instant_out_of_range (now : Nat) (seconds : UInt64) (outside : ¬ InRange now seconds) :
    instantAfter now seconds = none := if_neg outside

/-- A grant in range is written as a whole. -/
theorem install_grant_in_range (now : Nat) (session : Session) (token : TokenResponse)
    (grant : Grant) (granted : grant = ⟨token.accessToken,
      if token.refreshToken = "" then none else some token.refreshToken, token.expiresIn⟩)
    (inRange : InRange now token.expiresIn) :
    ∃ after, installGrant now session grant = (after, .ok ()) ∧
      FromGrant now session after token := by
  subst granted
  rw [installGrant, instant_in_range now token.expiresIn inRange]
  refine ⟨_, rfl, rfl, ?_, rfl, rfl⟩
  by_cases kept : token.refreshToken = ""
  · simp [kept]
  · simp [kept]

/-- A grant out of range panics. The access token is written by then. -/
theorem install_grant_out_of_range (now : Nat) (session : Session) (grant : Grant)
    (outside : ¬ InRange now grant.expiresIn) :
    (installGrant now session grant).2 = .error .panic ∧
      (installGrant now session grant).1.accessToken = grant.accessToken ∧
      (installGrant now session grant).1.tokenExpiresAt = session.tokenExpiresAt := by
  rw [installGrant, instant_out_of_range now grant.expiresIn outside]
  exact ⟨rfl, rfl, rfl⟩

/-- A login in range is written as a whole. -/
theorem install_login_in_range (now : Nat) (session : Session) (login : Login)
    (inRange : InRange now login.expiresIn) :
    ∃ after, installLogin now session login = (after, .ok ()) ∧ FromLogin now after login := by
  rw [installLogin, instant_in_range now login.expiresIn inRange]
  exact ⟨_, rfl, rfl, rfl, rfl, rfl⟩

/-- A login out of range panics. Both tokens are written by then, the key is not. -/
theorem install_login_out_of_range (now : Nat) (session : Session) (login : Login)
    (outside : ¬ InRange now login.expiresIn) :
    (installLogin now session login).2 = .error .panic ∧
      (installLogin now session login).1.accessToken = login.accessToken ∧
      (installLogin now session login).1.symKey = session.symKey := by
  rw [installLogin, instant_out_of_range now login.expiresIn outside]
  exact ⟨rfl, rfl, rfl⟩

/-! ## The renewal -/

/-- A refresh grant succeeds on a body, when there is a refresh token to send. -/
theorem refresh_token_cases (currentRt : String) (answer : Answer TokenResponse) :
    (currentRt ≠ "" ∧ ∃ token, answer = .body token ∧
        refreshToken currentRt answer = .ok ⟨token.accessToken,
          if token.refreshToken = "" then none else some token.refreshToken, token.expiresIn⟩) ∨
      ((currentRt = "" ∨ ∀ token, answer ≠ .body token) ∧
        ∃ error, refreshToken currentRt answer = .error error) := by
  by_cases unsent : currentRt = ""
  · exact .inr ⟨.inl unsent, _, if_pos unsent⟩
  · rw [refreshToken, if_neg unsent]
    cases answer with
    | http message => exact .inr ⟨.inr (fun token same => by cases same), _, rfl⟩
    | server status text => exact .inr ⟨.inr (fun token same => by cases same), _, rfl⟩
    | body token => exact .inl ⟨unsent, token, rfl, rfl⟩

section
variable {RsaPrivateKey : Type} (client : Client RsaPrivateKey)

/-- A renewal never touches the cache, nor the time of its last refresh. -/
theorem renewal_cache (now : Nat) (session : Session) (currentRt : String)
    (answer : Answer TokenResponse) (answers : LoginAnswers) :
    (doRefreshOrReauth client now session currentRt answer answers).1.vault = session.vault ∧
      (doRefreshOrReauth client now session currentRt answer answers).1.lastRefreshAt =
        session.lastRefreshAt := by
  rw [doRefreshOrReauth]
  cases refreshToken currentRt answer with
  | ok grant => exact install_grant_cache now session grant
  | error error =>
    dsimp only
    rw [reAuthenticate]
    cases authenticate client.crypto client.unicode client.email client.password answers with
    | ok login => exact install_login_cache now session login
    | error halt => exact ⟨rfl, rfl⟩

/-- A login in range, or no login, is all or nothing. -/
theorem re_authenticate_in_range (now : Nat) (session : Session) (answers : LoginAnswers)
    (inRange : ∀ login, authenticate client.crypto client.unicode client.email client.password
      answers = .ok login → InRange now login.expiresIn) :
    ∃ after result, reAuthenticate client now session answers = (after, result) ∧
      result ≠ .error .panic ∧
      (after = session ∨ ∃ login, authenticate client.crypto client.unicode client.email
        client.password answers = .ok login ∧ FromLogin now after login) := by
  cases answered : authenticate client.crypto client.unicode client.email client.password
    answers with
  | ok login =>
    obtain ⟨after, written, fields⟩ :=
      install_login_in_range now session login (inRange login answered)
    have same : reAuthenticate client now session answers = (after, .ok ()) := by
      rw [reAuthenticate, answered]
      exact written
    exact ⟨after, .ok (), same, by simp, .inr ⟨login, rfl, fields⟩⟩
  | error halt =>
    have same : reAuthenticate client now session answers = (session, .error halt) := by
      rw [reAuthenticate, answered]
    have returns : halt ≠ .panic := by
      rintro rfl
      exact authenticate_total client.crypto client.unicode client.email client.password answers
        answered
    exact ⟨session, .error halt, same, by simpa using returns, .inl rfl⟩

/-- An expiry in range makes a renewal atomic. -/
theorem renewal_in_range (now : Nat) (session : Session) (currentRt : String)
    (answer : Answer TokenResponse) (answers : LoginAnswers)
    (inRange : ExpiryInRange client now currentRt answer answers) :
    Atomic client now session currentRt answer answers := by
  obtain ⟨vault, refreshed⟩ := renewal_cache client now session currentRt answer answers
  rcases refresh_token_cases currentRt answer with
    ⟨sent, token, body, granted⟩ | ⟨refused, error, failed⟩
  · obtain ⟨after, written, fields⟩ :=
      install_grant_in_range now session token _ rfl (inRange.grant token sent body)
    have same : doRefreshOrReauth client now session currentRt answer answers =
        (after, .ok ()) := by
      rw [doRefreshOrReauth, granted]
      exact written
    refine ⟨by simp [same], ?_, vault, refreshed⟩
    rw [same]
    exact .inr (.inl ⟨sent, token, body, fields⟩)
  · obtain ⟨after, result, written, returns, replaced⟩ :=
      re_authenticate_in_range client now session answers (inRange.login refused)
    have same : doRefreshOrReauth client now session currentRt answer answers =
        (after, result) := by
      rw [doRefreshOrReauth, failed]
      exact written
    refine ⟨by rwa [same], ?_, vault, refreshed⟩
    rw [same]
    exact replaced.imp_right (fun login => .inr ⟨⟨error, failed⟩, login⟩)

/-- A renewal that returns had an expiry in range. -/
theorem renewal_returns (now : Nat) (session : Session) (currentRt : String)
    (answer : Answer TokenResponse) (answers : LoginAnswers)
    (returns : (doRefreshOrReauth client now session currentRt answer answers).2 ≠ .error .panic) :
    ExpiryInRange client now currentRt answer answers := by
  rcases refresh_token_cases currentRt answer with
    ⟨sent, token, body, granted⟩ | ⟨refused, error, failed⟩
  · rw [doRefreshOrReauth, granted] at returns
    constructor
    · intro other _ same
      obtain rfl : token = other := Answer.body.inj (body.symm.trans same)
      by_contra outside
      exact returns (install_grant_out_of_range now session _ outside).1
    · intro refused
      rcases refused with unsent | none
      · exact absurd unsent sent
      · exact absurd body (none token)
  · rw [doRefreshOrReauth, failed] at returns
    constructor
    · intro token sent body
      rcases refused with unsent | none
      · exact absurd unsent sent
      · exact absurd body (none token)
    · intro _ login answered
      dsimp only at returns
      rw [reAuthenticate, answered] at returns
      by_contra outside
      exact returns (install_login_out_of_range now session login outside).1

/-- A renewal is atomic if and only if the seconds of the answer that it accepts are in
range, for every session, every refresh token that it sent and every answer. -/
theorem atomic_iff (now : Nat) (session : Session) (currentRt : String)
    (answer : Answer TokenResponse) (answers : LoginAnswers) :
    Atomic client now session currentRt answer answers ↔
      ExpiryInRange client now currentRt answer answers :=
  ⟨fun atomic => renewal_returns client now session currentRt answer answers atomic.returns,
    renewal_in_range client now session currentRt answer answers⟩

end

/-- A grant for the largest number of seconds replaces the access token and panics before
the expiry. -/
theorem largest_expiry_tears :
    ∃ after, doRefreshOrReauth sampleClient 0 (sampleSystem Unit).session "rt"
        (.body ⟨"new-at", 18446744073709551615, "new-rt", ""⟩) sampleLogin =
          (after, .error .panic) ∧
      after.accessToken = "new-at" ∧ after.refreshToken = "new-rt" ∧
      after.tokenExpiresAt = (sampleSystem Unit).session.tokenExpiresAt ∧
      ¬ Atomic sampleClient 0 (sampleSystem Unit).session "rt"
        (.body ⟨"new-at", 18446744073709551615, "new-rt", ""⟩) sampleLogin := by
  have panics : (doRefreshOrReauth sampleClient 0 (sampleSystem Unit).session "rt"
      (.body ⟨"new-at", 18446744073709551615, "new-rt", ""⟩) sampleLogin).2 = .error .panic := rfl
  exact ⟨_, rfl, rfl, rfl, rfl, fun atomic => atomic.returns panics⟩

/-! ## The renewals of the system -/

section
variable {RsaPrivateKey : Type} (client : Client RsaPrivateKey)

/-- A renewal among other tasks: what its last step finds, and what it leaves. Each step
may find another session and another time. -/
inductive Ends : Renewal → Nat → Session → Session × Call AuthError Unit → Prop where
  | last (now : Nat) (session after : Session) (renewal : Renewal) (signal : Signal)
      (result : Call AuthError Unit)
      (taken : renewalStep client now session renewal signal = some (after, .done result)) :
      Ends renewal now session (after, result)
  | more (earlier now : Nat) (found left session : Session) (renewal next : Renewal)
      (signal : Signal) (outcome : Session × Call AuthError Unit)
      (taken : renewalStep client earlier found renewal signal = some (left, .running next))
      (later : Ends next now session outcome) : Ends renewal now session outcome

/-- The steps before the last write nothing. -/
theorem running_keeps (now : Nat) (session left : Session) (renewal next : Renewal)
    (signal : Signal)
    (taken : renewalStep client now session renewal signal = some (left, .running next)) :
    left = session := by
  cases renewal_move client now session left renewal signal _ taken <;> rfl

/-- A renewal in its last step ends with what that step leaves. -/
theorem ends_granted_iff (now : Nat) (session : Session) (grant : Grant)
    (outcome : Session × Call AuthError Unit) :
    Ends client (.granted grant) now session outcome ↔ outcome = installGrant now session grant := by
  constructor
  · intro ends
    cases ends with
    | last now session after renewal signal result taken =>
      cases renewal_move client now session after _ signal _ taken
      rfl
    | more earlier now found left session renewal next signal outcome taken later =>
      cases renewal_move client earlier found left _ signal _ taken
  · intro same
    subst same
    exact .last now session _ _ .proceed _ rfl

theorem ends_authenticated_iff (now : Nat) (session : Session) (login : Login)
    (outcome : Session × Call AuthError Unit) :
    Ends client (.authenticated login) now session outcome ↔
      outcome = installLogin now session login := by
  constructor
  · intro ends
    cases ends with
    | last now session after renewal signal result taken =>
      cases renewal_move client now session after _ signal _ taken
      rfl
    | more earlier now found left session renewal next signal outcome taken later =>
      cases renewal_move client earlier found left _ signal _ taken
  · intro same
    subst same
    exact .last now session _ _ .proceed _ rfl

/-- A login ends as `re_authenticate` on some answers. -/
theorem ends_authenticating_iff (now : Nat) (session : Session)
    (outcome : Session × Call AuthError Unit) :
    Ends client .authenticating now session outcome ↔
      ∃ answers, outcome = reAuthenticate client now session answers := by
  constructor
  · intro ends
    cases ends with
    | last now session after renewal signal result taken =>
      cases renewal_move client now session after _ signal _ taken with
      | fail answers halt failed =>
        refine ⟨answers, ?_⟩
        rw [reAuthenticate, failed]
    | more earlier now found left session renewal next signal outcome taken later =>
      cases renewal_move client earlier found left _ signal _ taken with
      | login answers login authenticated =>
        refine ⟨answers, ?_⟩
        rw [reAuthenticate, authenticated]
        exact (ends_authenticated_iff client now session login outcome).mp later
  · rintro ⟨answers, same⟩
    subst same
    rw [reAuthenticate]
    cases answered : authenticate client.crypto client.unicode client.email client.password
      answers with
    | ok login =>
      exact .more now now session session session _ (.authenticated login) (.login answers) _
        (by rw [renewalStep, answered])
        ((ends_authenticated_iff client now session login _).mpr rfl)
    | error halt =>
      exact .last now session session _ (.login answers) _ (by rw [renewalStep, answered])

/-- A renewal that sent its refresh token ends as `do_refresh_or_reauth` with it. -/
theorem ends_granting_iff (now : Nat) (session : Session) (currentRt : String)
    (outcome : Session × Call AuthError Unit) :
    Ends client (.granting currentRt) now session outcome ↔ ∃ answer answers,
      outcome = doRefreshOrReauth client now session currentRt answer answers := by
  constructor
  · intro ends
    cases ends with
    | last now session after renewal signal result taken =>
      cases renewal_move client now session after _ signal _ taken
    | more earlier now found left session renewal next signal outcome taken later =>
      cases renewal_move client earlier found left _ signal _ taken with
      | grant refreshTok answer grant granted =>
        -- The grant decides, whatever a login would be answered.
        refine ⟨answer, sampleLogin, ?_⟩
        rw [doRefreshOrReauth, granted]
        exact (ends_granted_iff client now session grant outcome).mp later
      | refuse refreshTok answer error refused =>
        obtain ⟨answers, same⟩ := (ends_authenticating_iff client now session outcome).mp later
        refine ⟨answer, answers, ?_⟩
        rw [doRefreshOrReauth, refused]
        exact same
  · rintro ⟨answer, answers, same⟩
    subst same
    rw [doRefreshOrReauth]
    cases granted : refreshToken currentRt answer with
    | ok grant =>
      exact .more now now session session session _ (.granted grant) (.token answer) _
        (by rw [renewalStep, granted])
        ((ends_granted_iff client now session grant _).mpr rfl)
    | error error =>
      exact .more now now session session session _ .authenticating (.token answer) _
        (by rw [renewalStep, granted])
        ((ends_authenticating_iff client now session _).mpr ⟨answers, rfl⟩)

/-- A renewal among other tasks ends as `do_refresh_or_reauth` does on the refresh token
that it read, some answers, and the session and time of its last step; and each of these
ends is one of a renewal. -/
theorem ends_reading_iff (now : Nat) (session : Session)
    (outcome : Session × Call AuthError Unit) :
    Ends client .reading now session outcome ↔ ∃ currentRt answer answers,
      outcome = doRefreshOrReauth client now session currentRt answer answers := by
  constructor
  · intro ends
    cases ends with
    | last now session after renewal signal result taken =>
      cases renewal_move client now session after _ signal _ taken
    | more earlier now found left session renewal next signal outcome taken later =>
      cases renewal_move client earlier found left _ signal _ taken
      exact ⟨found.refreshToken, (ends_granting_iff client now session _ outcome).mp later⟩
  · rintro ⟨currentRt, answer, answers, same⟩
    let found : Session := { session with refreshToken := currentRt }
    exact .more now now found found session _ (.granting currentRt) .proceed _ rfl
      ((ends_granting_iff client now session currentRt outcome).mpr ⟨answer, answers, same⟩)

end

end VaultwardenOperator.AtomicRenewal
