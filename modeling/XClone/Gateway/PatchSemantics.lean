import XClone.Gateway.OwnProfile
import XClone.Identity.ProfileHistory

/-!
# XClone.Gateway.PatchSemantics — what a sequence of PATCHes leaves behind

`PATCH /v1/users/me` through every layer: the body parser, the controller, the gRPC
message, the use case and the `UPDATE`. In any run of Gateway and Identity, whatever
else they serve, a field of an account is the normalised value of the last accepted
PATCH of that account whose body has the field (`patch_semantics`); bodies are read as
JSON here (`bodyString`), not through the code.
-/

namespace XClone.Gateway

open Js Interleaving Identity AccessToken

/-! ## Bodies -/

/-- The fields a PATCH may have. -/
def patchKeys : List JsString := [js "displayName", js "bio"]

/-- The string a body has under a key. -/
def bodyString (body : Option Json) (key : JsString) : Option JsString :=
  match body with
  | some (.obj members) =>
    match Record.get members key with
    | some (.str value) => some value
    | _ => none
  | _ => none

/-- An object whose fields are strings where it has them. -/
def WellShaped (body : Option Json) : Prop :=
  ∃ members, body = some (.obj members) ∧
    ∀ key ∈ patchKeys, ∀ value, Record.get members key = some value → ∃ text, value = .str text

theorem optionalString_ok {members : Record} {key : JsString} {value : Option JsString}
    (h : optionalString (members.get key) key = .ok value) :
    value = bodyString (some (.obj members)) key ∧
      ∀ given, members.get key = some given → ∃ text, given = .str text := by
  unfold optionalString at h
  unfold bodyString
  dsimp only
  split at h
  · rename_i hnone
    cases h
    rw [hnone]
    refine ⟨rfl, fun given hgiven => ?_⟩
    cases hgiven
  · rename_i text hsome
    cases h
    rw [hsome]
    refine ⟨rfl, fun given hgiven => ?_⟩
    cases hgiven
    exact ⟨text, rfl⟩
  · cases h

theorem optionalString_error {members : Record} {key : JsString} {problem : ProblemDetails}
    (h : optionalString (members.get key) key = .error problem) :
    problem.status = 400 ∧ ∃ given, members.get key = some given ∧ ∀ text, given ≠ .str text := by
  unfold optionalString at h
  split at h
  · cases h
  · cases h
  · rename_i given hother hsome
    cases h
    refine ⟨rfl, given, hsome, ?_⟩
    rintro text rfl
    exact hother text rfl

/-- The parser accepts the well-shaped bodies, and hands on what they have. -/
theorem parseUpdateProfileBody_cases (body : Option Json) :
    (WellShaped body ∧ parseUpdateProfileBody body =
      .ok ⟨bodyString body (js "displayName"), bodyString body (js "bio")⟩) ∨
    (¬ WellShaped body ∧ ∃ problem, parseUpdateProfileBody body = .error problem ∧
      problem.status = 400) := by
  unfold parseUpdateProfileBody
  cases hfields : bodyFields body with
  | none =>
    right
    refine ⟨?_, _, rfl, rfl⟩
    rintro ⟨members, rfl, -⟩
    cases hfields
  | some members =>
    have hbody : body = some (.obj members) := by
      unfold bodyFields at hfields
      split at hfields
      · cases hfields
        rfl
      · cases hfields
    subst hbody
    dsimp only
    -- a field refused by `optionalString` is present and no string
    have shaped {key : JsString} (hkey : key ∈ patchKeys) {problem : ProblemDetails}
        (h : optionalString (Record.get members key) key = .error problem) :
        ¬ WellShaped (some (.obj members)) := by
      rintro ⟨members', heq, hstrings⟩
      cases heq
      rcases (optionalString_error h).2 with ⟨given, hgiven, hother⟩
      rcases hstrings key hkey given hgiven with ⟨text, htext⟩
      exact hother text htext
    cases hname : optionalString (Record.get members (js "displayName")) (js "displayName") with
    | error problem =>
      exact Or.inr ⟨shaped List.mem_cons_self hname, problem, rfl, (optionalString_error hname).1⟩
    | ok displayName =>
      cases hbio : optionalString (Record.get members (js "bio")) (js "bio") with
      | error problem =>
        exact Or.inr ⟨shaped (List.mem_cons_of_mem _ List.mem_cons_self) hbio, problem, rfl,
          (optionalString_error hbio).1⟩
      | ok bio =>
        rcases optionalString_ok hname with ⟨rfl, hnameText⟩
        rcases optionalString_ok hbio with ⟨rfl, hbioText⟩
        refine Or.inl ⟨⟨members, rfl, ?_⟩, rfl⟩
        intro key hkey
        simp only [patchKeys, List.mem_cons, List.not_mem_nil, or_false] at hkey
        rcases hkey with rfl | rfl
        · exact hnameText
        · exact hbioText

/-! ## PATCHes -/

variable {d : Deployment} {accounts : UserTables d.services.lower} {b b' : Backend d}

/-- The request, handled at `now`, is a PATCH with a token of `userId`. -/
structure PatchOf (d : Deployment) (request : HttpRequest) (now : Date) (userId : JsString) :
    Prop where
  route : request.route = .updateOwnProfile
  principal : ∃ principal, d.guard.canActivate now request.authorization = .ok principal ∧
    principal.userId = userId

/-- The call a PATCH makes. -/
def patchCall (request : HttpRequest) (userId : JsString) : UpdateProfileRequest :=
  { userId, displayName := bodyString request.body (js "displayName")
    bio := bodyString request.body (js "bio") }

/-- A PATCH makes its call exactly when its body is well shaped, and is a 400 otherwise. -/
theorem PatchOf.dispatch {request : HttpRequest} {now : Date} {userId : JsString}
    (h : PatchOf d request now userId) :
    (WellShaped request.body ∧
      dispatch d.guard now request = .ok (.updateProfile (patchCall request userId))) ∨
    (¬ WellShaped request.body ∧ ∃ rejection, dispatch d.guard now request = .error rejection ∧
      rejection.problem.status = 400) := by
  rcases h.principal with ⟨principal, hguard, rfl⟩
  unfold Gateway.dispatch
  rw [h.route]
  simp only [hguard]
  rcases parseUpdateProfileBody_cases request.body with
    ⟨hshaped, hparse⟩ | ⟨hshaped, problem, hparse, hstatus⟩
  · left
    refine ⟨hshaped, ?_⟩
    simp only [UsersController.updateOwnProfile, hparse]
    rfl
  · right
    refine ⟨hshaped, ⟨problem, none⟩, ?_, hstatus⟩
    simp only [UsersController.updateOwnProfile, hparse]
    rfl

/-- Whatever updates a profile is a PATCH. -/
theorem patchOf_of_dispatch {request : HttpRequest} {now : Date} {data : UpdateProfileRequest}
    (h : dispatch d.guard now request = .ok (.updateProfile data)) :
    PatchOf d request now data.userId ∧ data = patchCall request data.userId := by
  rcases dispatch_updateProfile h with ⟨hroute, principal, hguard, hsubject⟩
  have hpatch : PatchOf d request now data.userId := ⟨hroute, principal, hguard, hsubject.symm⟩
  refine ⟨hpatch, ?_⟩
  rcases hpatch.dispatch with ⟨-, hcall⟩ | ⟨-, rejection, hrejected, -⟩
  · rw [h] at hcall
    exact Rpc.updateProfile.inj (Except.ok.inj hcall)
  · rw [h] at hrejected
    cases hrejected

/-- A field of a PATCH in normal form, if the PATCH has it. -/
def givenField (key : JsString) (normalize : JsString → Except Failure JsString)
    (request : HttpRequest) : Option JsString :=
  (bodyString request.body key).bind fun value => (normalize value).toOption

def givenDisplayName : HttpRequest → Option JsString :=
  givenField (js "displayName") normalizeDisplayName

def givenBio : HttpRequest → Option JsString := givenField (js "bio") normalizeBio

theorem normalizeField_given {normalize : JsString → Except Failure JsString} {key : JsString}
    {request : HttpRequest} {value : Option JsString}
    (h : normalizeField normalize (bodyString request.body key) = .ok value) :
    value = givenField key normalize request := by
  unfold givenField
  cases hbody : bodyString request.body key with
  | none =>
    rw [hbody] at h
    cases h
    rfl
  | some given =>
    rw [hbody] at h
    cases hnormal : normalize given with
    | ok normal =>
      simp only [normalizeField, hnormal, Except.map] at h
      cases h
      simp [hnormal, Except.toOption]
    | error e => simp [normalizeField, hnormal, Except.map] at h

/-- What an accepted PATCH writes. -/
theorem normalises_given {request : HttpRequest} {userId : JsString} {changes : ProfileChanges}
    (h : Normalises ⟨userId, bodyString request.body (js "displayName"),
      bodyString request.body (js "bio")⟩ changes) :
    changes.displayName = givenDisplayName request ∧ changes.bio = givenBio request :=
  ⟨normalizeField_given h.displayName, normalizeField_given h.bio⟩

/-! ## Runs -/

namespace Backend

/-- Runs of Gateway and Identity, with any accounts and nobody logged in. -/
def Runs (accounts : UserTables d.services.lower) (b : Backend d) : Prop :=
  Relation.ReflTransGen (fun b b' => ∃ action, Step b action b') (.initial accounts) b

/-- Identity has run, and every execution of it was started by a request. -/
structure Forwards (accounts : UserTables d.services.lower) (b : Backend d) : Prop where
  run : Run (machine d.services) (.initial (.noSessions accounts)) b.history b.identity
  started : ∀ i request, .start i request ∈ b.history → ∃ f ∈ b.forwarded, f.thread = i ∧
    ∃ rpc, dispatch d.guard f.now f.request = .ok rpc ∧ request = rpc.request
  sent : ∀ f ∈ b.forwarded, ∃ rpc, dispatch d.guard f.now f.request = .ok rpc ∧
    .start f.thread rpc.request ∈ b.history
  distinct : (b.forwarded.map (·.thread)).Nodup

theorem Forwards.step (h : b.Forwards accounts) {action : Action} (hstep : Step b action b') :
    b'.Forwards accounts := by
  cases hstep with
  | reject _ => exact h
  | lose _ => exact h
  | @forward i request now rpc c hdispatch hmove =>
    constructor
    · exact h.run.snoc hmove
    · intro j started hmem
      rcases List.mem_append.mp hmem with hold | hlast
      · rcases h.started j started hold with ⟨f, hf, hrest⟩
        exact ⟨f, List.mem_cons_of_mem _ hf, hrest⟩
      · cases List.mem_singleton.mp hlast
        exact ⟨_, List.mem_cons_self, rfl, rpc, hdispatch, rfl⟩
    · intro f hf
      rcases List.mem_cons.mp hf with rfl | hf
      · exact ⟨rpc, hdispatch, List.mem_append_right _ (List.mem_singleton_self _)⟩
      · rcases h.sent f hf with ⟨rpc', hdispatch', hmem⟩
        exact ⟨rpc', hdispatch', List.mem_append_left _ hmem⟩
    · -- the thread is a new one
      refine List.nodup_cons.mpr ⟨?_, h.distinct⟩
      intro hmem
      rcases List.mem_map.mp hmem with ⟨f, hf, hthread⟩
      rcases h.sent f hf with ⟨rpc', -, hstart⟩
      rcases h.run.started hstart with ⟨t, ht, -⟩
      cases hmove with
      | start _ _ hnone =>
        rw [hthread, hnone] at ht
        cases ht
  | @identity e c hquiet hmove =>
    constructor
    · exact h.run.snoc hmove
    · intro j started hmem
      rcases List.mem_append.mp hmem with hold | hlast
      · exact h.started j started hold
      · cases List.mem_singleton.mp hlast
        cases hquiet
    · intro f hf
      rcases h.sent f hf with ⟨rpc, hdispatch, hmem⟩
      exact ⟨rpc, hdispatch, List.mem_append_left _ hmem⟩
    · exact h.distinct

theorem Runs.forwards (h : Runs accounts b) : b.Forwards accounts := by
  induction h with
  | refl =>
    constructor
    · exact .nil _
    · intro i request hmem
      cases hmem
    · intro f hf
      cases hf
    · exact List.nodup_nil
  | tail _ hstep ih =>
    rcases hstep with ⟨action, hstep⟩
    exact ih.step hstep

end Backend

/-! ## Accepted PATCHes -/

/-- The execution whose update of an account an event commits. -/
def committer (userId : JsString) : IdentityEvent → Option ℕ
  | .returned i (.updateProfile id _) (some _) => if id = userId then some i else none
  | _ => none

namespace Backend

/-- The request that started execution `i`. -/
def requestOf (b : Backend d) (i : ℕ) : Option Forwarded := b.forwarded.find? (·.thread = i)

/-- The accepted PATCHes of an account, in the order of their commits. -/
def accepted (b : Backend d) (userId : JsString) : List Forwarded :=
  (b.history.filterMap (committer userId)).filterMap b.requestOf

/-- Identity has answered the request with a profile. -/
def Answered (b : Backend d) (f : Forwarded) : Prop :=
  ∃ request profile, b.identity.threads f.thread = some ⟨request, .done (.profile profile)⟩

namespace Forwards

theorem requestOf_eq (h : b.Forwards accounts) {f : Forwarded} (hf : f ∈ b.forwarded) :
    b.requestOf f.thread = some f := by
  unfold requestOf
  cases hfound : b.forwarded.find? (·.thread = f.thread) with
  | none =>
    have hno := List.find?_eq_none.mp hfound f hf
    simp at hno
  | some g =>
    have hthread : g.thread = f.thread := by simpa using List.find?_some hfound
    have hg := List.mem_of_find?_eq_some hfound
    rw [List.inj_on_of_nodup_map h.distinct hg hf hthread]

/-- A commit was asked for by a PATCH of its account, and answered it. -/
theorem commit_origin (h : b.Forwards accounts) {i : ℕ} {userId : JsString}
    {changes : ProfileChanges} {profile : Profile}
    (hmem : .returned i (.updateProfile userId changes) (some profile) ∈ b.history) :
    ∃ f ∈ b.forwarded, f.thread = i ∧ PatchOf d f.request f.now userId ∧
      WellShaped f.request.body ∧ b.Answered f ∧
      Normalises ⟨userId, bodyString f.request.body (js "displayName"),
        bodyString f.request.body (js "bio")⟩ changes := by
  rcases h.run.done_by hmem (i := i) rfl with ⟨request, p, events, hthread, hdid⟩
  rcases hdid.went.split (hdid.returned.mp hmem) with ⟨τ₁, τ₂, next, -, hbefore, hafter⟩
  rcases execute_updates hbefore with ⟨input, rfl⟩
  have hpath : Path i (execute d.services.toSettings (.updateProfile input)) τ₁
    (.call (.updateProfile userId changes) next) := hbefore
  rcases updateProfile_writes hpath with ⟨-, changes', hchanges, heq⟩
  cases heq
  -- what it returned is the profile
  rw [updateProfile_answers hpath] at hafter
  rcases hafter.of_completed trivial with ⟨-, rfl⟩
  rcases h.started i _ hdid.started with ⟨f, hf, rfl, rpc, hdispatch, hrequest⟩
  cases rpc with
  | updateProfile data =>
    rcases patchOf_of_dispatch hdispatch with ⟨hpatch, hdata⟩
    have hinput : input = ⟨data.userId, data.displayName, data.bio⟩ :=
      Request.updateProfile.inj hrequest
    subst hinput
    refine ⟨f, hf, rfl, hpatch, ?_, ⟨_, profile, hthread⟩, ?_⟩
    · rcases hpatch.dispatch with ⟨hshaped, -⟩ | ⟨-, rejection, hrejected, -⟩
      · exact hshaped
      · rw [hdispatch] at hrejected
        cases hrejected
    · rw [hdata] at hchanges
      exact hchanges
  | register | login | refresh | getProfile => cases hrequest

/-- The commits to an account are the accepted PATCHes of it, field by field. -/
theorem commits_eq (h : b.Forwards accounts) {field : ProfileChanges → Option JsString}
    {given : HttpRequest → Option JsString}
    (hfield : ∀ request userId changes, Normalises ⟨userId,
      bodyString request.body (js "displayName"), bodyString request.body (js "bio")⟩ changes →
      field changes = given request) (userId : JsString) :
    lastGiven field (commits b.history userId) =
      ((b.accepted userId).filterMap fun f => given f.request).getLast? := by
  unfold lastGiven commits accepted
  rw [List.filterMap_filterMap, List.filterMap_filterMap, List.filterMap_filterMap]
  refine congrArg List.getLast? (List.filterMap_congr fun e he => ?_)
  cases e with
  | start i request => rfl
  | threw i call e => rfl
  | returned i call answer =>
    -- only an answered update commits, and its forward says what was given
    cases call with
    | updateProfile id changes =>
      cases answer with
      | none => rfl
      | some profile =>
        by_cases hid : id = userId
        · subst hid
          rcases h.commit_origin he with ⟨f, hf, rfl, -, -, -, hchanges⟩
          simp [committed, committer, h.requestOf_eq hf, hfield _ _ _ hchanges]
        · simp [committed, committer, hid]
    | existsByHandle | createUser | findCredentialsByHandle | createSession | findByTokenHash
    | rotate | revoke | findByHandle | hashPassword | verifyPassword | createRefreshToken | nextId
    | now | issueAccessToken => rfl

/-- An accepted PATCH is one, and its update was committed. -/
theorem accepted_origin (h : b.Forwards accounts) {f : Forwarded} {userId : JsString}
    (hf : f ∈ b.accepted userId) :
    ∃ changes profile,
      .returned f.thread (.updateProfile userId changes) (some profile) ∈ b.history ∧
      f ∈ b.forwarded ∧ PatchOf d f.request f.now userId ∧ WellShaped f.request.body ∧
      b.Answered f ∧ Normalises ⟨userId, bodyString f.request.body (js "displayName"),
        bodyString f.request.body (js "bio")⟩ changes := by
  rcases List.mem_filterMap.mp hf with ⟨i, hi, hrequest⟩
  rcases List.mem_filterMap.mp hi with ⟨e, he, hcommitter⟩
  -- the event is a commit to the account
  unfold committer at hcommitter
  split at hcommitter
  · rename_i j id changes profile
    split at hcommitter
    · rename_i hid
      cases hcommitter
      subst hid
      -- and a thread has one request
      rcases h.commit_origin he with ⟨f', hf', rfl, horigin⟩
      rw [h.requestOf_eq hf'] at hrequest
      cases hrequest
      exact ⟨changes, profile, he, hf', horigin⟩
    · cases hcommitter
  · cases hcommitter

/-- The execution of a PATCH that was sent is the update it asks for. -/
theorem patch_runs (h : b.Forwards accounts) {f : Forwarded} {userId : JsString}
    (hf : f ∈ b.forwarded) (hpatch : PatchOf d f.request f.now userId) {request : Request}
    {p : UseCase Response} (hthread : b.identity.threads f.thread = some ⟨request, p⟩) :
    ∃ events, Did (machine d.services) b.history f.thread
      (.updateProfile ⟨userId, bodyString f.request.body (js "displayName"),
        bodyString f.request.body (js "bio")⟩) events p := by
  rcases h.sent f hf with ⟨rpc, hdispatch, hstart⟩
  rcases hpatch.dispatch with ⟨-, hcall⟩ | ⟨-, rejection, hrejected, -⟩
  · rw [hdispatch] at hcall
    cases hcall
    rcases h.run.did hthread with ⟨events, hdid⟩
    obtain rfl := h.run.start_unique hstart hdid.started
    exact ⟨events, hdid⟩
  · rw [hdispatch] at hrejected
    cases hrejected

/-- The accepted PATCHes of an account are those that Identity answered. -/
theorem mem_accepted (h : b.Forwards accounts) {f : Forwarded} {userId : JsString} :
    f ∈ b.accepted userId ↔
      f ∈ b.forwarded ∧ PatchOf d f.request f.now userId ∧ b.Answered f := by
  constructor
  · intro hf
    rcases h.accepted_origin hf with ⟨changes, profile, -, hforwarded, hpatch, -, hanswered, -⟩
    exact ⟨hforwarded, hpatch, hanswered⟩
  · rintro ⟨hf, hpatch, request, profile, hthread⟩
    rcases h.patch_runs hf hpatch hthread with ⟨events, hdid⟩
    have hpath : Path f.thread (execute d.services.toSettings
      (.updateProfile ⟨userId, bodyString f.request.body (js "displayName"),
        bodyString f.request.body (js "bio")⟩)) events (.done (.profile profile)) :=
      hdid.went.done
    -- an update that answers has committed
    rcases updateProfile_done hpath with ⟨changes, returned, -, hevents, -⟩
    have hcommit : .returned f.thread (.updateProfile userId changes) (some returned) ∈
        b.history := hdid.subset (hevents ▸ List.mem_singleton_self _)
    refine List.mem_filterMap.mpr ⟨f.thread, ?_, h.requestOf_eq hf⟩
    exact List.mem_filterMap.mpr ⟨_, hcommit, if_pos rfl⟩

end Forwards

end Backend

/-! ## Which PATCHes are accepted -/

/-- A body that asks for something, all of it valid. -/
structure Acceptable (body : Option Json) : Prop where
  shaped : WellShaped body
  displayName : ∀ value, bodyString body (js "displayName") = some value →
    ∃ normal, normalizeDisplayName value = .ok normal
  bio : ∀ value, bodyString body (js "bio") = some value → ∃ normal, normalizeBio value = .ok normal
  given : bodyString body (js "displayName") ≠ none ∨ bodyString body (js "bio") ≠ none

/-- A field normalises when it is absent or valid. -/
theorem normalizeField_ok {normalize : JsString → Except Failure JsString}
    {value : Option JsString} :
    (∃ normal, normalizeField normalize value = .ok normal) ↔
      ∀ given, value = some given → ∃ normal, normalize given = .ok normal := by
  cases value with
  | none =>
    constructor
    · intro _ given hgiven
      cases hgiven
    · intro _
      exact ⟨none, rfl⟩
  | some value =>
    constructor
    · rintro ⟨normal, hnormal⟩ given hgiven
      cases hgiven
      cases hvalue : normalize value with
      | ok result => exact ⟨result, rfl⟩
      | error e => simp [normalizeField, hvalue, Except.map] at hnormal
    · intro h
      rcases h value rfl with ⟨normal, hnormal⟩
      exact ⟨some normal, by simp [normalizeField, hnormal, Except.map]⟩

/-- An absent field stays absent, and a present one present. -/
theorem normalizeField_none {normalize : JsString → Except Failure JsString}
    {value normal : Option JsString} (h : normalizeField normalize value = .ok normal) :
    normal = none ↔ value = none := by
  cases value with
  | none =>
    cases h
    simp
  | some value =>
    cases hvalue : normalize value with
    | ok result =>
      simp only [normalizeField, hvalue, Except.map] at h
      cases h
      simp
    | error e => simp [normalizeField, hvalue, Except.map] at h

/-- The acceptable bodies are those an update normalises. -/
theorem acceptable_iff {body : Option Json} (userId : JsString) :
    Acceptable body ↔ WellShaped body ∧ ∃ changes, Normalises
      ⟨userId, bodyString body (js "displayName"), bodyString body (js "bio")⟩ changes := by
  constructor
  · intro h
    rcases normalizeField_ok.mpr h.displayName with ⟨displayName, hname⟩
    rcases normalizeField_ok.mpr h.bio with ⟨bio, hbio⟩
    refine ⟨h.shaped, ⟨displayName, bio⟩, hname, hbio, ?_⟩
    rintro ⟨hnoName, hnoBio⟩
    rcases h.given with hgiven | hgiven
    · exact hgiven ((normalizeField_none hname).mp hnoName)
    · exact hgiven ((normalizeField_none hbio).mp hnoBio)
  · rintro ⟨hshaped, changes, hchanges⟩
    refine ⟨hshaped, normalizeField_ok.mp ⟨_, hchanges.displayName⟩,
      normalizeField_ok.mp ⟨_, hchanges.bio⟩, ?_⟩
    by_contra hno
    have hnone := not_or.mp hno
    exact hchanges.given ⟨(normalizeField_none hchanges.displayName).mpr (not_not.mp hnone.1),
      (normalizeField_none hchanges.bio).mpr (not_not.mp hnone.2)⟩

namespace Backend.Forwards

/-- An accepted PATCH was acceptable, and its account exists. -/
theorem accepted_acceptable (h : b.Forwards accounts) {f : Forwarded} {userId : JsString}
    (hf : f ∈ b.accepted userId) : Acceptable f.request.body ∧
      ∃ row ∈ b.identity.store.accounts.users.rows, row.id = userId := by
  rcases h.accepted_origin hf with ⟨changes, profile, hcommit, -, -, hshaped, -, hchanges⟩
  have hexists := updated_exists h.run hcommit
  exact ⟨(acceptable_iff userId).mpr ⟨hshaped, changes, hchanges⟩, hexists⟩

/-- An acceptable PATCH of an account that exists is accepted, unless its call throws. -/
theorem acceptable_accepted (h : b.Forwards accounts) {f : Forwarded} {userId : JsString}
    (hf : f ∈ b.forwarded) (hpatch : PatchOf d f.request f.now userId)
    (hacceptable : Acceptable f.request.body) {row : UserRow} (hrow : row ∈ accounts.users.rows)
    (hid : row.id = userId) {request : Request} {p : UseCase Response}
    (hthread : b.identity.threads f.thread = some ⟨request, p⟩) (hcompleted : p.Completed)
    (hthrow : NoThrow b.history f.thread) : f ∈ b.accepted userId := by
  refine h.mem_accepted.mpr ⟨hf, hpatch, ?_⟩
  rcases h.patch_runs hf hpatch hthread with ⟨events, hdid⟩
  have hpath : Path f.thread (execute d.services.toSettings (.updateProfile ⟨userId,
    bodyString f.request.body (js "displayName"), bodyString f.request.body (js "bio")⟩))
    events p := hdid.went.quiet fun call e hmem => hthrow call e (hdid.threw.mpr hmem)
  rcases ((acceptable_iff userId).mp hacceptable).2 with ⟨changes, hchanges⟩
  rcases updateProfile_cases d.services.toSettings ⟨userId,
    bodyString f.request.body (js "displayName"), bodyString f.request.body (js "bio")⟩ with
    ⟨e, -, hno⟩ | ⟨changes', -, hcode⟩
  · exact absurd hchanges (hno changes)
  · -- its one call finds the account
    rw [hcode] at hpath
    cases hpath with
    | nil => exact hcompleted.elim
    | @returned _ _ returned events' _ hrest =>
      have hmem : .returned f.thread (.updateProfile userId changes') returned ∈ b.history :=
        hdid.subset List.mem_cons_self
      rcases h.run.answered_at hmem with ⟨τ₁, τ₂, c₁, c₂, -, hbefore, hreturns, -⟩
      -- the account is still there, with what was committed to it before
      have hanswer := DrizzleProfileRepository.update_returned hreturns.2
        (row_of_run hbefore hrow) hid
      rw [hanswer] at hrest
      rcases hrest.of_completed trivial with ⟨-, rfl⟩
      exact ⟨_, _, hthread⟩

/-- Whatever changes the accounts is a registration or an accepted PATCH. -/
theorem writes (h : b.Forwards accounts) {action : Action} (hstep : Step b action b')
    (hchanged : b'.identity.store.accounts ≠ b.identity.store.accounts) :
    (∃ i user passwordHash,
      action = .identity (.returned i (.createUser user passwordHash) ())) ∨
    ∃ f userId changes profile, f ∈ b'.accepted userId ∧
      action = .identity (.returned f.thread (.updateProfile userId changes) (some profile)) := by
  have hnext := h.step hstep
  cases hstep with
  | reject _ => exact absurd rfl hchanged
  | lose _ => exact absurd rfl hchanged
  | forward _ hmove =>
    cases hmove
    exact absurd rfl hchanged
  | identity hquiet hmove =>
    cases hmove with
    | start i request _ => cases hquiet
    | threw _ _ => exact absurd rfl hchanged
    | @returned i request call next answer s hthread hreturns =>
      cases wroteAccounts hreturns with
      | nothing _ hsame => exact absurd hsame hchanged
      | created user passwordHash _ => exact Or.inl ⟨i, user, passwordHash, rfl⟩
      | updated userId changes answer hupdate =>
        cases answer with
        | none => exact absurd (DrizzleProfileRepository.update_unknown hupdate) hchanged
        | some profile =>
          have hmem : .returned i (.updateProfile userId changes) (some profile) ∈
              b.history ++ [.returned i (.updateProfile userId changes) (some profile)] :=
            List.mem_append_right _ (List.mem_singleton_self _)
          rcases hnext.commit_origin hmem with ⟨f, hf, rfl, hpatch, -, hanswered, -⟩
          exact Or.inr ⟨f, userId, changes, profile,
            hnext.mem_accepted.mpr ⟨hf, hpatch, hanswered⟩, rfl⟩

end Backend.Forwards

/-! ## What they leave behind -/

/-- A row as the accepted PATCHes of its account left it: each field as the last of them
that has it gave it. -/
def Backend.rowOf (b : Backend d) (row : UserRow) : UserRow :=
  { row with
    displayName := ((b.accepted row.id).filterMap fun f =>
      givenDisplayName f.request).getLast?.getD row.displayName
    bio := ((b.accepted row.id).filterMap fun f => givenBio f.request).getLast?.getD row.bio }

/-- Those are the commits of the history. -/
theorem Backend.Forwards.applied_commits (h : b.Forwards accounts) (row : UserRow) :
    applied (commits b.history row.id) row = b.rowOf row := by
  unfold applied rowOf
  rw [h.commits_eq fun request userId changes hchanges => (normalises_given hchanges).1,
    h.commits_eq fun request userId changes hchanges => (normalises_given hchanges).2]

/-- The last of values that are all the same. -/
theorem getLast?_filterMap_eq {α β : Type} {field : α → Option β} {l : List α} {value : β}
    (hsome : ∃ x ∈ l, field x = some value)
    (hall : ∀ x ∈ l, field x = none ∨ field x = some value) :
    (l.filterMap field).getLast? = some value := by
  rcases hsome with ⟨x, hx, hvalue⟩
  have hmem : value ∈ l.filterMap field := List.mem_filterMap.mpr ⟨x, hx, hvalue⟩
  cases hlast : (l.filterMap field).getLast? with
  | none =>
    rw [List.getLast?_eq_none_iff.mp hlast] at hmem
    cases hmem
  | some last =>
    rcases List.mem_filterMap.mp (List.mem_of_getLast? hlast) with ⟨y, hy, hlastValue⟩
    rcases hall y hy with hnone | hsame
    · rw [hnone] at hlastValue
      cases hlastValue
    · rw [hsame] at hlastValue
      exact hlastValue.symm

/-- Of two elements the one that has the field decides its last value, wherever it is. -/
theorem getLast?_of_two {α β : Type} {field : α → Option β} {l : List α} {x y : α} {value : β}
    (hx : x ∈ l) (honly : ∀ z ∈ l, z = x ∨ z = y) (hvalue : field x = some value)
    (hnone : field y = none) : (l.filterMap field).getLast? = some value := by
  refine getLast?_filterMap_eq ⟨x, hx, hvalue⟩ fun z hz => ?_
  rcases honly z hz with rfl | rfl
  · exact Or.inr hvalue
  · exact Or.inl hnone

/-- A field that is present and valid is given. -/
theorem givenField_some {key : JsString} {normalize : JsString → Except Failure JsString}
    {request : HttpRequest} (hpresent : bodyString request.body key ≠ none)
    (hvalid : ∀ value, bodyString request.body key = some value →
      ∃ normal, normalize value = .ok normal) :
    ∃ normal, givenField key normalize request = some normal := by
  rcases Option.ne_none_iff_exists'.mp hpresent with ⟨value, hvalue⟩
  rcases hvalid value hvalue with ⟨normal, hnormal⟩
  exact ⟨normal, by simp [givenField, hvalue, hnormal, Except.toOption]⟩

/-- Two accepted PATCHes of different fields both take effect, in either order. -/
theorem Backend.Forwards.both_take_effect (h : b.Forwards accounts) {row : UserRow}
    {f g : Forwarded} (hf : f ∈ b.accepted row.id) (hg : g ∈ b.accepted row.id)
    (honly : ∀ patch ∈ b.accepted row.id, patch = f ∨ patch = g)
    (hname : bodyString f.request.body (js "bio") = none)
    (hbio : bodyString g.request.body (js "displayName") = none) :
    ∃ displayName bio, givenDisplayName f.request = some displayName ∧
      givenBio g.request = some bio ∧ b.rowOf row = { row with displayName, bio } := by
  have hfAcceptable := (h.accepted_acceptable hf).1
  have hgAcceptable := (h.accepted_acceptable hg).1
  -- each has the field the other lacks
  have hfPresent := hfAcceptable.given.resolve_right fun hno => hno hname
  have hgPresent := hgAcceptable.given.resolve_left fun hno => hno hbio
  rcases givenField_some hfPresent hfAcceptable.displayName with ⟨displayName, hdisplayName⟩
  rcases givenField_some hgPresent hgAcceptable.bio with ⟨bio, hbioValue⟩
  have hfNone : givenBio f.request = none := by simp [givenBio, givenField, hname]
  have hgNone : givenDisplayName g.request = none := by
    simp [givenDisplayName, givenField, hbio]
  refine ⟨displayName, bio, hdisplayName, hbioValue, ?_⟩
  have hlastName : ((b.accepted row.id).filterMap fun patch =>
      givenDisplayName patch.request).getLast? = some displayName :=
    getLast?_of_two hf honly hdisplayName hgNone
  have hlastBio : ((b.accepted row.id).filterMap fun patch =>
      givenBio patch.request).getLast? = some bio :=
    getLast?_of_two hg (fun patch hpatch => (honly patch hpatch).symm) hbioValue hfNone
  unfold rowOf
  rw [hlastName, hlastBio]
  rfl

/-- The semantics of PATCH. -/
structure PatchSemantics (accounts : UserTables d.services.lower) (b : Backend d) : Prop where
  /-- Every account is as its accepted PATCHes left it: no other column, no other row. -/
  rows : ∀ row ∈ accounts.users.rows, b.rowOf row ∈ b.identity.store.accounts.users.rows
  no_others : ∀ row' ∈ b.identity.store.accounts.users.rows,
    (∃ row ∈ accounts.users.rows, row' = b.rowOf row) ∨ ∃ i user passwordHash,
      .returned i (.createUser user passwordHash) () ∈ b.history ∧ row'.id = user.id
  /-- The accepted PATCHes are the ones that were answered with a profile. -/
  accepted : ∀ f userId, f ∈ b.accepted userId ↔
    f ∈ b.forwarded ∧ PatchOf d f.request f.now userId ∧ b.Answered f
  /-- A body of the wrong shape never reaches Identity. -/
  shaped : ∀ request now userId, PatchOf d request now userId →
    ((∃ rpc, dispatch d.guard now request = .ok rpc) ↔ WellShaped request.body)
  /-- An invalid value in either field, nothing to change or an unknown account is rejected, -/
  rejected : ∀ f userId, f ∈ b.accepted userId →
    Acceptable f.request.body ∧ ∃ row ∈ b.identity.store.accounts.users.rows, row.id = userId
  /-- and anything else accepted, unless Identity's call fails. -/
  acceptable : ∀ f ∈ b.forwarded, ∀ row ∈ accounts.users.rows,
    PatchOf d f.request f.now row.id → Acceptable f.request.body → ∀ request p,
      b.identity.threads f.thread = some ⟨request, p⟩ → p.Completed →
      NoThrow b.history f.thread → f ∈ b.accepted row.id
  /-- Nothing but a registration or an accepted PATCH writes. -/
  writes : ∀ action b', Backend.Step b action b' →
    b'.identity.store.accounts ≠ b.identity.store.accounts →
    (∃ i user passwordHash,
      action = .identity (.returned i (.createUser user passwordHash) ())) ∨
    ∃ f userId changes profile, f ∈ b'.accepted userId ∧
      action = .identity (.returned f.thread (.updateProfile userId changes) (some profile))
  /-- The empty string is a value: it clears a bio, and is no display name. -/
  empty : ∀ f userId, f ∈ b.accepted userId →
    bodyString f.request.body (js "displayName") ≠ some [] ∧
      (bodyString f.request.body (js "bio") = some [] → givenBio f.request = some [])
  /-- PATCHes of different fields both take effect, in either order. -/
  both : ∀ row ∈ accounts.users.rows, ∀ f ∈ b.accepted row.id, ∀ g ∈ b.accepted row.id,
    (∀ patch ∈ b.accepted row.id, patch = f ∨ patch = g) →
    bodyString f.request.body (js "bio") = none →
    bodyString g.request.body (js "displayName") = none →
    ∃ displayName bio, givenDisplayName f.request = some displayName ∧
      givenBio g.request = some bio ∧
      { row with displayName, bio } ∈ b.identity.store.accounts.users.rows

/-- PATCH keeps its semantics through every layer, and in every order of commits. -/
theorem patch_semantics (hruns : b.Runs accounts) : PatchSemantics accounts b := by
  have h := hruns.forwards
  have hrows : ∀ row ∈ accounts.users.rows,
      b.rowOf row ∈ b.identity.store.accounts.users.rows := by
    intro row hrow
    rw [← h.applied_commits]
    exact row_of_run h.run hrow
  constructor
  case rows => exact hrows
  case no_others =>
    -- a row was there from the start or belongs to a registration
    intro row' hrow'
    rcases origin_of_run h.run hrow' with ⟨row, hrow, heq⟩ | hregistered
    · exact Or.inl ⟨row, hrow, heq.trans (h.applied_commits row)⟩
    · exact Or.inr hregistered
  case accepted => exact fun f userId => h.mem_accepted
  case shaped =>
    intro request now userId hpatch
    rcases hpatch.dispatch with ⟨hshaped, hcall⟩ | ⟨hshaped, rejection, hrejected, -⟩
    · exact ⟨fun _ => hshaped, fun _ => ⟨_, hcall⟩⟩
    · refine ⟨?_, fun hyes => absurd hyes hshaped⟩
      rintro ⟨rpc, hcall⟩
      rw [hrejected] at hcall
      cases hcall
  case rejected => exact fun f userId hf => h.accepted_acceptable hf
  case acceptable =>
    intro f hf row hrow hpatch hacceptable request p hthread hcompleted hthrow
    exact h.acceptable_accepted hf hpatch hacceptable hrow rfl hthread hcompleted hthrow
  case writes => exact fun action b' hstep hchanged => h.writes hstep hchanged
  case empty =>
    -- an empty display name is refused, an empty bio clears the field
    intro f userId hf
    constructor
    · intro hempty
      rcases (h.accepted_acceptable hf).1.displayName [] hempty with ⟨normal, hnormal⟩
      cases hnormal
    · intro hempty
      simp only [givenBio, givenField, hempty]
      rfl
  case both =>
    intro row hrow f hf g hg honly hname hbio
    rcases h.both_take_effect hf hg honly hname hbio with
      ⟨displayName, bio, hdisplayName, hbioValue, heq⟩
    refine ⟨displayName, bio, hdisplayName, hbioValue, ?_⟩
    rw [← heq]
    exact hrows row hrow

/-- While the sample PATCH is under way, `sam` sends another, of the bio, and that one gets
there first. -/
def samplePatches : List Backend.Move :=
  sampleTraffic ++ [.forward 2
      { route := .updateOwnProfile, authorization := some (js "Bearer " ++ sampleToken)
        userAgent := none, body := some (.obj [(js "bio", .str (js "I am Sam."))]) }
      1767226499999,
    .answer 2 .none, .answer 1 .none]

theorem samplePatches_play :
    (Schedule.play Backend.attempt Backend.copied (@Backend.initial sampleDeployment sampleAccounts)
      samplePatches).isSome = true := by
  decide +kernel

/-- Both have been answered. -/
def samplePatched : Backend sampleDeployment := (Schedule.play _ _ _ _).get samplePatches_play

/-- The two concurrent PATCHes of `sam` both take effect. -/
theorem sample_patches_both_take_effect :
    (⟨⟨js "7", js "sam", js "Sam", js "I am Sam.", 1767225000000⟩, none, 0, 0, false⟩ : UserRow) ∈
      samplePatched.identity.store.accounts.users.rows := by
  have hruns : @Backend.Runs sampleDeployment sampleAccounts samplePatched := by
    have hreaches : Backend.Reaches (@Backend.initial sampleDeployment sampleAccounts)
        samplePatched := Backend.play_reaches (Option.some_get samplePatches_play).symm
    refine Relation.ReflTransGen.mono ?_ _ _ hreaches
    rintro _ _ ⟨action, -, hstep⟩
    exact ⟨action, hstep⟩
  have hrow : (⟨⟨js "7", js "sam", js "sam", [], 1767225000000⟩, none, 0, 0, false⟩ : UserRow) ∈
      sampleAccounts.users.rows := by
    decide +kernel
  have hbodies : (samplePatched.accepted (js "7")).map (fun f =>
      (bodyString f.request.body (js "displayName"), bodyString f.request.body (js "bio"))) =
        [(none, some (js "I am Sam.")), (some (js " Sam "), none)] := by
    decide +kernel
  rcases List.map_eq_cons_iff.mp hbodies with ⟨g, rest, haccepted, hg, hrest⟩
  rcases List.map_eq_singleton_iff.mp hrest with ⟨f, rfl, hf⟩
  rcases Prod.mk.inj hf with ⟨hname, hnoBio⟩
  rcases Prod.mk.inj hg with ⟨hnoName, hbio⟩
  have hmem : ∀ patch, patch ∈ samplePatched.accepted (js "7") ↔ patch = f ∨ patch = g := by
    intro patch
    rw [haccepted, List.mem_cons, List.mem_singleton, or_comm]
  rcases (patch_semantics hruns).both _ hrow f ((hmem f).mpr (Or.inl rfl)) g
    ((hmem g).mpr (Or.inr rfl)) (fun patch => (hmem patch).mp) hnoBio hnoName with
    ⟨displayName, bio, hgivenName, hgivenBio, hboth⟩
  simp only [givenDisplayName, givenField, hname] at hgivenName
  simp only [givenBio, givenField, hbio] at hgivenBio
  cases hgivenName
  cases hgivenBio
  exact hboth

end XClone.Gateway
