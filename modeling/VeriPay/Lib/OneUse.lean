import Mathlib.Logic.Function.Basic
import Mathlib.Data.List.Count

/-!
One-use tickets. A book opens at most one ticket for a key, under a token, and
spends it at most once, on that token. What any sequence of moves keeps is
derived here from the three rules alone, for arbitrary keys and tokens.
-/

namespace VeriPay.Lib.OneUse

variable {K T : Type*} [DecidableEq K]

inductive Ticket (T : Type*)
  | opened (token : T)
  | spent (token : T)
  deriving DecidableEq

def Ticket.token : Ticket T → T
  | .opened token => token
  | .spent token => token

/-- The tickets by key; `none` where none was ever opened. -/
abbrev Book (K T : Type*) := K → Option (Ticket T)

inductive Move (K T : Type*)
  | idle
  | open (key : K) (token : T)
  | spend (key : K) (token : T)

inductive Step : Book K T → Move K T → Book K T → Prop
  | idle (b : Book K T) : Step b .idle b
  | open (b : Book K T) (key : K) (token : T) (h : b key = none) :
      Step b (.open key token) (Function.update b key (some (.opened token)))
  | spend (b : Book K T) (key : K) (token : T) (h : b key = some (.opened token)) :
      Step b (.spend key token) (Function.update b key (some (.spent token)))

inductive Run : Book K T → List (Move K T) → Book K T → Prop
  | nil (b : Book K T) : Run b [] b
  | cons {b b' b'' : Book K T} {move : Move K T} {rest : List (Move K T)} :
      Step b move b' → Run b' rest b'' → Run b (move :: rest) b''

/-- A spent ticket stays as it is. -/
theorem Step.spent_stable {b b' : Book K T} {move : Move K T} (h : Step b move b') {key : K}
    {token : T} (hspent : b key = some (.spent token)) : b' key = some (.spent token) := by
  cases h with
  | idle => exact hspent
  | «open» opened token' hnone =>
    have hne : key ≠ opened := fun heq => by simp [heq, hnone] at hspent
    rwa [Function.update_of_ne hne]
  | spend spent token' hopened =>
    have hne : key ≠ spent := fun heq => by simp [heq, hopened] at hspent
    rwa [Function.update_of_ne hne]

theorem Run.spent_stable {b b' : Book K T} {moves : List (Move K T)} (h : Run b moves b')
    {key : K} {token : T} (hspent : b key = some (.spent token)) :
    b' key = some (.spent token) := by
  induction h with
  | nil => exact hspent
  | cons hstep _ ih => exact ih (hstep.spent_stable hspent)

/-- Once spent, a key is never spent again. -/
theorem Run.not_spend_of_spent {b b' : Book K T} {moves : List (Move K T)} (h : Run b moves b')
    {key : K} {token : T} (hspent : b key = some (.spent token)) :
    ∀ token', .spend key token' ∉ moves := by
  induction h with
  | nil => simp
  | @cons b b₁ b' move rest hstep _ ih =>
    intro token' hmem
    rcases List.mem_cons.mp hmem with rfl | htail
    · cases hstep with
      | spend key token' hopened => simp [hopened] at hspent
    · exact ih (hstep.spent_stable hspent) token' htail

/-- A key is spent at most once in a run. -/
theorem Run.spend_once {b b' : Book K T} {moves : List (Move K T)} (h : Run b moves b') :
    moves.Pairwise (fun earlier later =>
      ∀ key token token', earlier = .spend key token → later ≠ .spend key token') := by
  induction h with
  | nil => exact .nil
  | @cons b b₁ b' move rest hstep hrest ih =>
    refine .cons ?_ ih
    rintro later hlater key token token' rfl rfl
    cases hstep with
    | spend key token hopened =>
      exact hrest.not_spend_of_spent (Function.update_self ..) token' hlater

/-- A spend needs a ticket under its own token: one already in the book or one
that an earlier move of the run opened. -/
theorem Run.spend_opened {b b' : Book K T} {pre post : List (Move K T)} {key : K} {token : T}
    (h : Run b (pre ++ .spend key token :: post) b') :
    (∃ ticket, b key = some ticket ∧ ticket.token = token) ∨ .open key token ∈ pre := by
  induction pre generalizing b with
  | nil =>
    cases h with
    | cons hstep _ =>
      cases hstep with
      | spend key token hopened => exact Or.inl ⟨_, hopened, rfl⟩
  | cons move rest ih =>
    cases h with
    | @cons _ b₁ _ _ _ hstep hrest =>
      rcases ih hrest with ⟨ticket, hticket, htoken⟩ | hopened
      · cases hstep with
        | idle => exact Or.inl ⟨ticket, hticket, htoken⟩
        | «open» opened token' hnone =>
          by_cases heq : key = opened
          · subst heq
            rw [Function.update_self] at hticket
            rw [← htoken, ← Option.some.inj hticket]
            exact Or.inr List.mem_cons_self
          · rw [Function.update_of_ne heq] at hticket
            exact Or.inl ⟨ticket, hticket, htoken⟩
        | spend spent token' hspend =>
          by_cases heq : key = spent
          · subst heq
            rw [Function.update_self] at hticket
            refine Or.inl ⟨.opened token', hspend, ?_⟩
            rw [← htoken, ← Option.some.inj hticket]
            rfl
          · rw [Function.update_of_ne heq] at hticket
            exact Or.inl ⟨ticket, hticket, htoken⟩
      · exact Or.inr (List.mem_cons_of_mem _ hopened)

end VeriPay.Lib.OneUse
