import Mathlib.Data.Bool.AllAny
import Mathlib.Data.List.Forall2
import VeriPay.Lib.TrimmedParts
import VeriPay.Portals.Auth

/-!
Who gets into a portal. The configuration is read as its entries between commas, the header as
its text around the first space, and access is what the last entry for the token with a role says.
-/

namespace VeriPay.Portals

open Lib

/-- The letters of a word, each in either case. -/
def SpellsAnyCase (text word : List Char) : Prop :=
  List.Forall₂ (fun c letter => c = letter ∨ c = letter.toUpper) text word

/-- What stands before the first colon, trimmed. -/
def entryToken (entry : String) : String :=
  strip (String.ofList (entry.toList.takeWhile fun c => c ≠ ':'))

/-- The roles after the first colon, trimmed and not blank. -/
def entryRoles (entry : String) : List String :=
  splitRoles (String.ofList ((entry.toList.dropWhile fun c => c ≠ ':').drop 1))

/-- The entries of a token that have a role. -/
def entriesFor (raw token : String) : List String :=
  (split ',' raw).filter fun entry => entryToken entry = token ∧ entryRoles entry ≠ []

/-- The header carries the token of an entry, and the last such entry with a role has one of the
required roles and makes the identity. -/
def Grants (raw : String) (authorization : Option String) (requiredRoles : Finset String)
    (identity : AuthIdentity) : Prop :=
  ∃ header scheme rest entry, authorization = some header ∧
    header.toList = scheme ++ ' ' :: rest ∧ ' ' ∉ scheme ∧
    SpellsAnyCase scheme "bearer".toList ∧ strip (String.ofList rest) ≠ "" ∧
    (entriesFor raw (strip (String.ofList rest))).getLast? = some entry ∧
    (∃ role ∈ entryRoles entry, role ∈ requiredRoles) ∧
    identity = ⟨"config-token", (entryRoles entry).toFinset⟩

section Entries

theorem strip_ofList (text : List Char) :
    strip (String.ofList text) = String.ofList (trim isPySpace text) := by
  rw [strip, String.toList_ofList]
  rfl

/-- Roles are read up to spaces at the end. -/
theorem splitRoles_rdropWhile (rest : List Char) :
    splitRoles (String.ofList (rest.rdropWhile isPySpace)) = splitRoles (String.ofList rest) := by
  have hstrip : strip ∘ String.ofList = String.ofList ∘ trim isPySpace := funext strip_ofList
  simp only [splitRoles, split, String.toList_ofList, List.map_map, hstrip]
  rw [← List.map_map, ← List.map_map, map_trim_splitOn_rdropWhile (by decide)]

theorem splitRoles_empty : splitRoles "" = [] := by decide

/-- An entry with a colon. -/
theorem entry_append {entry : String} {head rest : List Char} (hhead : ':' ∉ head)
    (hentry : entry.toList = head ++ ':' :: rest) :
    entryToken entry = strip (String.ofList head) ∧
      entryRoles entry = splitRoles (String.ofList rest) := by
  have hkept : ∀ c ∈ head, decide (c ≠ ':') = true := by
    intro c hc
    rw [decide_eq_true_eq]
    rintro rfl
    exact hhead hc
  rw [entryToken, entryRoles, hentry, List.takeWhile_append_of_pos hkept,
    List.dropWhile_append_of_pos hkept]
  simp

/-- An entry without a colon has no role. -/
theorem entryRoles_of_notMem {entry : String} (h : ':' ∉ entry.toList) : entryRoles entry = [] := by
  have hnone : (entry.toList.dropWhile fun c => c ≠ ':') = [] := by
    rw [List.dropWhile_eq_nil_iff]
    intro c hc
    rw [decide_eq_true_eq]
    rintro rfl
    exact h hc
  rw [entryRoles, hnone]
  exact splitRoles_empty

/-- The loop reads off each entry its token and its roles. -/
theorem addEntry_eq (result : PyDict String (Finset String)) (entry : String) :
    addEntry result entry =
      if entryToken entry ≠ "" ∧ entryRoles entry ≠ [] then
        result.set (entryToken entry) (entryRoles entry).toFinset
      else result := by
  unfold addEntry
  dsimp only
  by_cases hcolon : ':' ∈ entry.toList
  · obtain ⟨head, rest, hentry, hhead⟩ := List.eq_append_cons_of_mem hcolon
    obtain ⟨htoken, hroles⟩ := entry_append hhead hentry
    have hstrip : (strip entry).toList =
        head.dropWhile isPySpace ++ ':' :: rest.rdropWhile isPySpace := by
      rw [← String.ofList_toList (s := entry), strip_ofList, hentry, String.toList_ofList,
        trim_append_cons (by decide)]
    have hne : strip entry ≠ "" := by
      intro h
      rw [h] at hstrip
      simp at hstrip
    have hnot : ':' ∉ head.dropWhile isPySpace :=
      fun hmem => hhead ((List.dropWhile_suffix _).subset hmem)
    have hsame : strip (String.ofList (head.dropWhile isPySpace)) = strip (String.ofList head) := by
      rw [strip_ofList, strip_ofList, trim_dropWhile]
    rw [if_neg hne, partition_append hnot hstrip]
    simp only [hsame, splitRoles_rdropWhile, htoken, hroles, ne_eq, List.toFinset_eq_empty_iff]
  · have hnone := entryRoles_of_notMem hcolon
    have hnot : ':' ∉ (strip entry).toList := by
      rw [strip, String.toList_ofList]
      exact fun hmem => hcolon (mem_of_mem_trim hmem)
    rw [partition_of_notMem hnot, splitRoles_empty]
    simp [hnone]

/-- A token that is not blank is looked up with the roles of its last entry. -/
theorem get?_parseTokenMap (raw : String) {token : String} (htoken : token ≠ "") :
    (parseTokenMap raw).get? token =
      (entriesFor raw token).getLast?.map fun entry => (entryRoles entry).toFinset := by
  unfold parseTokenMap entriesFor
  generalize split ',' raw = entries
  induction entries using List.reverseRecOn with
  | nil => rfl
  | append_singleton entries entry ih =>
    rw [List.foldl_concat, addEntry_eq, List.filter_append, List.filter_singleton]
    by_cases hentry : entryToken entry = token ∧ entryRoles entry ≠ []
    · obtain ⟨rfl, hroles⟩ := hentry
      rw [if_pos ⟨htoken, hroles⟩, PyDict.get?_set_self]
      simp [hroles]
    · rw [decide_eq_false hentry, cond_false, List.append_nil, ← ih]
      split_ifs with hset
      · have hother : token ≠ entryToken entry := by
          rintro rfl
          exact hentry ⟨rfl, hset.2⟩
        exact PyDict.get?_set_of_ne _ _ hother
      · rfl

end Entries

section Requests

/-- Lowering the text gives the word exactly when the text spells it. -/
theorem map_toLower_eq_iff {word : List Char} (hword : ∀ letter ∈ word,
    (97 ≤ letter.toNat ∧ letter.toNat ≤ 122) ∧ letter.toUpper.toNat + 32 = letter.toNat)
    (text : List Char) : text.map Char.toLower = word ↔ SpellsAnyCase text word := by
  unfold SpellsAnyCase
  induction word generalizing text with
  | nil => simp
  | cons letter word ih =>
    obtain ⟨⟨hlower, hupper⟩, hrest⟩ := List.forall_mem_cons.mp hword
    cases text with
    | nil => simp
    | cons c text =>
      rw [List.map_cons, List.cons.injEq, List.forall₂_cons, toLower_eq_iff hlower hupper,
        ih hrest text]

theorem lower_eq_bearer_iff (scheme : List Char) :
    lower (String.ofList scheme) = "bearer" ↔ SpellsAnyCase scheme "bearer".toList := by
  rw [← map_toLower_eq_iff (List.all_iff_forall_prop.mp (by decide)), lower,
    String.toList_ofList, ← String.toList_inj, String.toList_ofList]

/-- The token of a header. -/
theorem extractBearerToken_eq_ok_iff (authorization : Option String) (token : String) :
    extractBearerToken authorization = .ok token ↔
      ∃ header scheme rest, authorization = some header ∧ header.toList = scheme ++ ' ' :: rest ∧
        ' ' ∉ scheme ∧ SpellsAnyCase scheme "bearer".toList ∧ strip (String.ofList rest) ≠ "" ∧
        strip (String.ofList rest) = token := by
  cases authorization with
  | none => simp [extractBearerToken]
  | some header =>
    simp only [extractBearerToken]
    by_cases hspace : ' ' ∈ header.toList
    · obtain ⟨scheme, rest, hheader, hscheme⟩ := List.eq_append_cons_of_mem hspace
      have hne : header ≠ "" := by
        rintro rfl
        simp at hspace
      rw [if_neg hne, partition_append hscheme hheader]
      constructor
      · intro h
        dsimp only at h
        split_ifs at h with hbad
        rw [not_or, not_not] at hbad
        have hspells := (lower_eq_bearer_iff scheme).mp hbad.1
        cases h
        exact ⟨header, scheme, rest, rfl, hheader, hscheme, hspells, hbad.2, rfl⟩
      · rintro ⟨_, scheme', rest', hsome, hheader', hscheme', hspells, hrest, rfl⟩
        cases hsome
        have hparts := partition_append hscheme' hheader'
        rw [partition_append hscheme hheader, Prod.mk.injEq, String.ofList_inj,
          String.ofList_inj] at hparts
        obtain ⟨rfl, rfl⟩ := hparts
        exact if_neg (not_or.mpr ⟨not_not.mpr ((lower_eq_bearer_iff scheme).mpr hspells), hrest⟩)
    · refine iff_of_false ?_ ?_
      · have hblank : strip "" = "" := by decide
        intro h
        rw [partition_of_notMem hspace, if_pos (Or.inr hblank)] at h
        split_ifs at h
      · rintro ⟨_, scheme, rest, hsome, hheader, -⟩
        cases hsome
        rw [hheader] at hspace
        exact hspace (by simp)

theorem extractBearerToken_error {authorization : Option String} {e : AuthError}
    (h : extractBearerToken authorization = .error e) : e.statusCode = 401 := by
  cases authorization with
  | none =>
    cases h
    rfl
  | some header =>
    rw [extractBearerToken] at h
    dsimp only at h
    split_ifs at h <;> cases h <;> rfl

theorem ConfigTokenAuthenticator.authenticate_eq_ok_iff {self : ConfigTokenAuthenticator}
    {token : String} {identity : AuthIdentity} :
    self.authenticate token = .ok identity ↔
      ∃ roles, self.tokens.get? token = some roles ∧ identity = ⟨"config-token", roles⟩ := by
  unfold authenticate
  cases self.tokens.get? token with
  | none => simp
  | some roles => simp [eq_comm]

theorem denied_iff (roles requiredRoles : Finset String) :
    (roles = ∅ ∨ roles ∩ requiredRoles = ∅) ↔ ¬ ∃ role ∈ roles, role ∈ requiredRoles := by
  rw [← Finset.disjoint_iff_inter_eq_empty, Finset.disjoint_left]
  constructor
  · rintro (rfl | hnone) ⟨role, hrole, hrequired⟩
    · exact Finset.notMem_empty role hrole
    · exact hnone hrole hrequired
  · intro hnone
    exact Or.inr fun role hrole hrequired => hnone ⟨role, hrole, hrequired⟩

theorem requireRoles_eq_ok_iff (printable : Char → Bool) (authorization : Option String)
    (authenticator : TokenAuthenticator) (requiredRoles : Finset String)
    (identity : AuthIdentity) :
    requireRoles printable authorization authenticator requiredRoles = .ok identity ↔
      ∃ token, extractBearerToken authorization = .ok token ∧
        authenticator.authenticate token = .ok identity ∧
        ∃ role ∈ identity.roles, role ∈ requiredRoles := by
  unfold requireRoles
  cases htoken : extractBearerToken authorization with
  | error e => simp [bind, Except.bind]
  | ok token =>
    cases hfound : authenticator.authenticate token with
    | error e => simp [bind, Except.bind, hfound]
    | ok found =>
      simp only [bind, Except.bind, hfound, denied_iff, Except.ok.injEq]
      constructor
      · intro h
        split_ifs at h with hdenied
        cases h
        exact ⟨token, rfl, hfound, hdenied⟩
      · rintro ⟨_, rfl, hsame, hroles⟩
        rw [hfound] at hsame
        cases hsame
        exact if_neg (not_not.mpr hroles)

/-- Whoever is denied gets one of two status codes. -/
theorem requireRoles_error {printable : Char → Bool} {authorization : Option String}
    {configured : ConfigTokenAuthenticator} {requiredRoles : Finset String} {e : AuthError}
    (h : requireRoles printable authorization configured.toTokenAuthenticator requiredRoles =
      .error e) : e.statusCode = 401 ∨ e.statusCode = 403 := by
  unfold requireRoles at h
  cases htoken : extractBearerToken authorization with
  | error denied =>
    rw [htoken] at h
    cases h
    exact Or.inl (extractBearerToken_error htoken)
  | ok token =>
    simp only [htoken, bind, Except.bind, ConfigTokenAuthenticator.toTokenAuthenticator,
      ConfigTokenAuthenticator.authenticate] at h
    cases hroles : configured.tokens.get? token with
    | none =>
      rw [hroles] at h
      cases h
      exact Or.inl rfl
    | some roles =>
      rw [hroles] at h
      dsimp only at h
      split_ifs at h
      · cases h
        exact Or.inr rfl
      · cases h

end Requests

/-- The authenticator lets in exactly who the configuration grants access, and denies the rest. -/
def FollowsConfiguration (configured : ConfigTokenAuthenticator) (raw : String) : Prop :=
  ∀ printable authorization requiredRoles,
    (∀ identity, requireRoles printable authorization configured.toTokenAuthenticator
        requiredRoles = .ok identity ↔ Grants raw authorization requiredRoles identity) ∧
    ((¬ ∃ identity, Grants raw authorization requiredRoles identity) →
      ∃ e, requireRoles printable authorization configured.toTokenAuthenticator requiredRoles =
        .error e ∧ (e.statusCode = 401 ∨ e.statusCode = 403))

theorem followsConfiguration_parseTokenMap (raw : String) :
    FollowsConfiguration ⟨parseTokenMap raw⟩ raw := by
  intro printable authorization requiredRoles
  have hok : ∀ identity, requireRoles printable authorization
      (ConfigTokenAuthenticator.mk (parseTokenMap raw)).toTokenAuthenticator requiredRoles =
        .ok identity ↔ Grants raw authorization requiredRoles identity := by
    intro identity
    rw [requireRoles_eq_ok_iff]
    constructor
    · rintro ⟨token, htoken, hidentity, hroles⟩
      obtain ⟨header, scheme, rest, hheader, hparts, hscheme, hspells, hrest, rfl⟩ :=
        (extractBearerToken_eq_ok_iff _ _).mp htoken
      obtain ⟨roles, hget, rfl⟩ := ConfigTokenAuthenticator.authenticate_eq_ok_iff.mp hidentity
      rw [get?_parseTokenMap raw hrest, Option.map_eq_some_iff] at hget
      obtain ⟨entry, hlast, rfl⟩ := hget
      refine ⟨header, scheme, rest, entry, hheader, hparts, hscheme, hspells, hrest, hlast, ?_, rfl⟩
      simpa using hroles
    · rintro ⟨header, scheme, rest, entry, hheader, hparts, hscheme, hspells, hrest, hlast,
        hroles, rfl⟩
      refine ⟨_, (extractBearerToken_eq_ok_iff _ _).mpr
        ⟨header, scheme, rest, hheader, hparts, hscheme, hspells, hrest, rfl⟩, ?_, ?_⟩
      · refine ConfigTokenAuthenticator.authenticate_eq_ok_iff.mpr ⟨_, ?_, rfl⟩
        rw [get?_parseTokenMap raw hrest, hlast, Option.map_some]
      · simpa using hroles
  refine ⟨hok, fun hnone => ?_⟩
  cases hresult : requireRoles printable authorization
      (ConfigTokenAuthenticator.mk (parseTokenMap raw)).toTokenAuthenticator requiredRoles with
  | ok identity => exact absurd ⟨identity, (hok identity).mp hresult⟩ hnone
  | error e => exact ⟨e, rfl, requireRoles_error hresult⟩

/-- Both portals let in exactly who their environment variable grants access. -/
theorem portals_follow_configuration (getenv : String → Option String) :
    FollowsConfiguration (BusinessPortal.configTokenAuthenticator getenv)
        ((getenv "BUSINESS_AUTH_TOKENS").getD "") ∧
      FollowsConfiguration (FiOpsPortal.configTokenAuthenticator getenv)
        ((getenv "FI_OPS_AUTH_TOKENS").getD "") :=
  ⟨followsConfiguration_parseTokenMap _, followsConfiguration_parseTokenMap _⟩

end VeriPay.Portals
