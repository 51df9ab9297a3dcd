import Mathlib.Algebra.BigOperators.Group.List.Basic
import Casebook.Proofs.Resolve.Blocks
import Casebook.Template.Reader

/-! Reading an expression on its own and in a placeholder.  The end of a placeholder stops an expression just where
the end of its words does, and whatever is read as an expression closes its brackets and ends without a sign. -/
namespace Casebook.Template

/-! ### Words of expressions -/

namespace Token

/-- How a word changes the number of open brackets. -/
def balance : Token → Int
  | .symbol s => balanceOf s
  | _ => 0

/-- Signs that may stand inside of the end of a placeholder. -/
def isSign (t : Token) : Bool := t = .symbol .plus || t = .symbol .minus

def isFault : Token → Bool
  | .fault _ => true
  | _ => false

@[simp] theorem balance_symbol (s : Symbol) : balance (.symbol s) = balanceOf s := rfl

@[simp] theorem balance_word (s : String) : balance (.word s) = 0 := rfl

@[simp] theorem balance_string (s : String) : balance (.string s) = 0 := rfl

@[simp] theorem balance_int (n : Nat) : balance (.int n) = 0 := rfl

@[simp] theorem balance_float (x : Float) : balance (.float x) = 0 := rfl

def balanceOfAll : List Token → Int
  | [] => 0
  | t :: ts => t.balance + balanceOfAll ts

/-- Whether the last of some words is a sign, or the word before them if there are none. -/
def endsSigned (before : Bool) (ts : List Token) : Bool := ts.foldl (fun _ t => t.isSign) before

@[simp] theorem balanceOfAll_nil : balanceOfAll [] = 0 := rfl

@[simp] theorem balanceOfAll_cons (t : Token) (ts : List Token) :
    balanceOfAll (t :: ts) = t.balance + balanceOfAll ts := rfl

@[simp] theorem balanceOfAll_append (ts us : List Token) :
    balanceOfAll (ts ++ us) = balanceOfAll ts + balanceOfAll us := by
  induction ts with
  | nil => simp
  | cons t ts ih => rw [List.cons_append, balanceOfAll_cons, balanceOfAll_cons, ih, Int.add_assoc]

@[simp] theorem endsSigned_nil (before : Bool) : endsSigned before [] = before := rfl

@[simp] theorem endsSigned_cons (before : Bool) (t : Token) (ts : List Token) :
    endsSigned before (t :: ts) = endsSigned t.isSign ts := rfl

@[simp] theorem endsSigned_append (before : Bool) (ts us : List Token) :
    endsSigned before (ts ++ us) = endsSigned (endsSigned before ts) us := by
  simp [endsSigned]

end Token

open Token (balanceOfAll endsSigned)

/-- Words that change the number of open brackets by some number, and that end without a sign. -/
structure Ends (balance : Int) (ts : List Token) : Prop where
  balance : balanceOfAll ts = balance
  signed : ∀ before, endsSigned before ts = false

/-- Words that may follow an expression: they leave no bracket open and end without a sign, if there are any. -/
structure Trails (ts : List Token) : Prop where
  balance : balanceOfAll ts = 0
  signed : endsSigned false ts = false

/-- Words of an expression: they leave no bracket open, end without a sign and do not start with a plus. -/
structure Spans (ts : List Token) : Prop extends Ends 0 ts where
  head : ∃ t, ts.head? = some t ∧ t ≠ .symbol .plus

theorem Trails.nil : Trails [] := ⟨rfl, rfl⟩

theorem Ends.trails {ts : List Token} (h : Ends 0 ts) : Trails ts := ⟨h.balance, h.signed false⟩

theorem Spans.append {ts us : List Token} (h : Spans ts) (h' : Trails us) : Spans (ts ++ us) where
  balance := by simp [h.balance, h'.balance]
  signed := by simp [h.signed, h'.signed]
  head := by
    obtain ⟨t, ht, hplus⟩ := h.head
    exact ⟨t, by simp [ht], hplus⟩

/-- The input with the end of a placeholder after it. -/
def Input.closed (after : List Token) (input : Input) : Input :=
  { input with words := input.words ++ .endValue :: after }

namespace Read

/-! ### Following a reader -/

variable {α β : Type}

/-- What one reader takes from an input another takes from it too, with the same outcome, where a placeholder ends after
the input.  The words that it takes satisfy a property, and none of them is a fault. -/
def TracksFrom (input : Input) (Q : List Token → Prop) (x y : Read α) : Prop :=
  ∀ a out, x.run input = .ok (a, out) →
    ∃ used, input.words = used ++ out.words ∧ (∀ t ∈ used, t.isFault = false) ∧ Q used ∧
      ∀ after, y.run (input.closed after) = .ok (a, out.closed after)

def Tracks (Q : List Token → Prop) (x y : Read α) : Prop := ∀ input, TracksFrom input Q x y

variable {input : Input} {Q Q' : List Token → Prop} {x y : Read α} {k l : α → Read β}

theorem TracksFrom.pure {a : α} (h : Q []) : TracksFrom input Q (Pure.pure a) (Pure.pure a) := by
  intro a' out hrun
  cases hrun
  exact ⟨[], rfl, by simp, h, fun _ => rfl⟩

theorem TracksFrom.mono (h : TracksFrom input Q x y) (hQ : ∀ ts, Q ts → Q' ts) : TracksFrom input Q' x y := by
  intro a out hrun
  obtain ⟨used, hwords, hsound, hused, hrun⟩ := h a out hrun
  exact ⟨used, hwords, hsound, hQ used hused, hrun⟩

theorem TracksFrom.fail : TracksFrom input Q Read.fail y := by
  intro a out hrun
  cases hrun

theorem TracksFrom.failBind {k : α → Read β} {y : Read β} : TracksFrom input Q (Read.fail >>= k) y := by
  intro b out hrun
  cases hrun

theorem TracksFrom.bind (hx : TracksFrom input Q' x y)
    (hk : ∀ a used out, Q' used → TracksFrom out (fun ts => Q (used ++ ts)) (k a) (l a)) :
    TracksFrom input Q (x >>= k) (y >>= l) := by
  intro b out hrun
  obtain ⟨⟨a, mid⟩, hmid, hout⟩ := bind_eq_ok.mp hrun
  obtain ⟨used, hwords, hsound, hQ', hx⟩ := hx a mid hmid
  obtain ⟨more, hmore, hsound', hQ, hk⟩ := hk a used mid hQ' b out hout
  refine ⟨used ++ more, ?_, ?_, hQ, fun after => bind_eq_ok.mpr ⟨_, hx after, hk after⟩⟩
  · rw [hwords, hmore, List.append_assoc]
  · intro t ht
    exact (List.mem_append.mp ht).elim (hsound t) (hsound' t)

theorem TracksFrom.map {f : α → β} (hx : TracksFrom input Q x y) : TracksFrom input Q (f <$> x) (f <$> y) := by
  rw [map_eq_pure_bind, map_eq_pure_bind]
  refine .bind hx fun a used out hused => .pure ?_
  rwa [List.append_nil]

variable {k l : Option Token → Read β}

theorem TracksFrom.peek (hend : input.words = [] → TracksFrom input Q (k none) (l (some .endValue)))
    (hword : ∀ t rest, input.words = t :: rest → TracksFrom input Q (k (some t)) (l (some t))) :
    TracksFrom input Q (Read.peek >>= k) (Read.peek >>= l) := by
  intro b out hrun
  obtain ⟨⟨a, mid⟩, hmid, hout⟩ := bind_eq_ok.mp hrun
  obtain ⟨words, depth, sections, inMacro⟩ := input
  cases words with
  | nil =>
    cases hmid
    obtain ⟨used, hwords, hsound, hQ, hl⟩ := hend rfl b out hout
    exact ⟨used, hwords, hsound, hQ, fun after => bind_eq_ok.mpr ⟨_, rfl, hl after⟩⟩
  | cons t rest =>
    have hpeek : ∀ after, Read.peek.run (Input.closed after ⟨t :: rest, depth, sections, inMacro⟩) =
        .ok (some t, Input.closed after ⟨t :: rest, depth, sections, inMacro⟩) ∧ a = some t ∧
          mid = ⟨t :: rest, depth, sections, inMacro⟩ := by
      intro after
      cases t <;> cases hmid <;> exact ⟨rfl, rfl, rfl⟩
    obtain ⟨-, rfl, rfl⟩ := hpeek []
    obtain ⟨used, hwords, hsound, hQ, hl⟩ := hword t rest rfl b out hout
    exact ⟨used, hwords, hsound, hQ, fun after => bind_eq_ok.mpr ⟨_, (hpeek after).1, hl after⟩⟩

theorem TracksFrom.next (hend : input.words = [] → k none = Read.fail)
    (hword : ∀ t rest, input.words = t :: rest →
      TracksFrom { input with words := rest } (fun ts => Q (t :: ts)) (k (some t)) (l (some t))) :
    TracksFrom input Q (Read.next >>= k) (Read.next >>= l) := by
  intro b out hrun
  obtain ⟨⟨a, mid⟩, hmid, hout⟩ := bind_eq_ok.mp hrun
  obtain ⟨words, depth, sections, inMacro⟩ := input
  cases words with
  | nil =>
    cases hmid
    have hfails : (k none).run ⟨[], depth, sections, inMacro⟩ = .ok (b, out) := hout
    rw [hend rfl] at hfails
    cases hfails
  | cons t rest =>
    have hnext : ∀ after, Read.next.run (Input.closed after ⟨t :: rest, depth, sections, inMacro⟩) =
        .ok (some t, Input.closed after ⟨rest, depth, sections, inMacro⟩) ∧ a = some t ∧
          mid = ⟨rest, depth, sections, inMacro⟩ ∧ t.isFault = false := by
      intro after
      cases t <;> cases hmid <;> exact ⟨rfl, rfl, rfl, rfl⟩
    obtain ⟨-, rfl, rfl, hfault⟩ := hnext []
    obtain ⟨used, hwords, hsound, hQ, hl⟩ := hword t rest rfl b out hout
    refine ⟨t :: used, congrArg (t :: ·) hwords, ?_, hQ, fun after => ?_⟩
    swap
    · exact bind_eq_ok.mpr ⟨_, (hnext after).1, hl after⟩
    rintro t' (_ | ⟨_, ht'⟩)
    · exact hfault
    · exact hsound t' ht'

/-- Takes a word that was seen before. -/
theorem TracksFrom.taken {k l : Read β} {t : Token} {rest : List Token} (hwords : input.words = t :: rest)
    (hk : ∀ input, TracksFrom input (fun ts => Q (t :: ts)) k l) :
    TracksFrom input Q (Read.next >>= fun _ => k) (Read.next >>= fun _ => l) := by
  refine .next (fun hnil => ?_) fun t' rest' hwords' => ?_
  · cases hwords.symm.trans hnil
  · cases hwords.symm.trans hwords'
    exact hk _

theorem TracksFrom.skip {t : Token} {k l : Bool → Read β} (ht : t ≠ .endValue)
    (htaken : ∀ input, TracksFrom input (fun ts => Q (t :: ts)) (k true) (l true))
    (hleft : TracksFrom input Q (k false) (l false)) :
    TracksFrom input Q (Read.skip t >>= k) (Read.skip t >>= l) := by
  have hskip : ∀ {γ : Type} (h : Bool → Read γ), Read.skip t >>= h = Read.peek >>= fun o =>
      if o = some t then Read.next >>= fun _ => h true else h false := by
    intro γ h
    rw [Read.skip, bind_assoc]
    congr
    funext o
    split
    · rw [bind_assoc, bind_congr fun _ => pure_bind _ _]
    · rw [pure_bind]
  rw [hskip, hskip]
  refine .peek (fun _ => ?_) fun t' rest hwords => ?_
  · rw [if_neg (by simp), if_neg (by simpa using ht.symm)]
    exact hleft
  · by_cases heq : t' = t
    · subst heq
      rw [if_pos rfl, if_pos rfl]
      exact .taken hwords htaken
    · rw [if_neg (by simpa using heq), if_neg (by simpa using heq)]
      exact hleft

theorem TracksFrom.expect {t : Token} {k l : Unit → Read β}
    (hk : ∀ input, TracksFrom input (fun ts => Q (t :: ts)) (k ()) (l ())) :
    TracksFrom input Q (Read.expect t >>= k) (Read.expect t >>= l) := by
  rw [Read.expect, bind_assoc, bind_assoc]
  refine .next (fun _ => by simp; rfl) fun t' rest _ => ?_
  by_cases heq : t' = t
  · subst heq
    rw [if_pos rfl]
    exact hk _
  · rw [if_neg (by simpa using heq)]
    exact .fail

theorem Tracks.nested (hx : Tracks Q x y) : Tracks Q (Read.nested x) (Read.nested y) := by
  intro input a out hrun
  obtain ⟨⟨_, inner⟩, henter, hrun⟩ := bind_eq_ok.mp hrun
  obtain ⟨⟨a', left⟩, hread, hrun⟩ := bind_eq_ok.mp hrun
  cases hrun
  have hdepth : ¬maxDepth ≤ input.depth ∧ inner = { input with depth := input.depth + 1 } := by
    change (if maxDepth ≤ input.depth then .error .badStructure
      else .ok ((), { input with depth := input.depth + 1 }) : Except Fault (Unit × Input)) = _ at henter
    split at henter
    case isTrue => cases henter
    case isFalse hdepth =>
      cases henter
      exact ⟨hdepth, rfl⟩
  obtain ⟨hdepth, rfl⟩ := hdepth
  obtain ⟨used, hwords, hsound, hQ, hy⟩ := hx _ a left hread
  refine ⟨used, hwords, hsound, hQ, fun after => ?_⟩
  refine bind_eq_ok.mpr ⟨_, if_neg hdepth, bind_eq_ok.mpr ⟨_, hy after, rfl⟩⟩

/-- A word that may be there before the rest. -/
theorem TracksFrom.perhaps {t : Token} {k l : Bool → Read β} (ht : t ≠ .endValue) (hbalance : t.balance = 0)
    (hsign : t.isSign = false)
    (h : ∀ there us input, Trails us → TracksFrom input (fun ts => Q (us ++ ts)) (k there) (l there)) :
    TracksFrom input Q (Read.skip t >>= k) (Read.skip t >>= l) := by
  refine .skip ht (fun input => ?_) (h false [] input .nil)
  exact h true [t] input ⟨by simp [hbalance], by simp [hsign]⟩

/-- What two readers see of a word that they leave: the same, or nothing and the end of the placeholder. -/
def Glimpsed (o o' : Option Token) : Prop := o' = o ∨ o = none ∧ o' = some .endValue

theorem Glimpsed.eq_some_iff {o o' : Option Token} (h : Glimpsed o o') {t : Token} (ht : t ≠ .endValue) :
    o = some t ↔ o' = some t := by
  rcases h with rfl | ⟨rfl, rfl⟩
  · rfl
  · simpa using ht.symm

theorem Glimpsed.startsTestOperand_eq {o o' : Option Token} (h : Glimpsed o o') :
    startsTestOperand o = startsTestOperand o' := by
  rcases h with rfl | ⟨rfl, rfl⟩ <;> rfl

theorem TracksFrom.glimpse (h : ∀ o o', Glimpsed o o' → TracksFrom input Q (k o) (l o')) :
    TracksFrom input Q (Read.peek >>= k) (Read.peek >>= l) :=
  .peek (fun _ => h _ _ (.inr ⟨rfl, rfl⟩)) fun _ _ _ => h _ _ (.inl rfl)

theorem TracksFrom.ite {c c' : Prop} [Decidable c] [Decidable c'] {x x' y y' : Read α} (hc : c ↔ c')
    (hyes : TracksFrom input Q x y) (hno : TracksFrom input Q x' y') :
    TracksFrom input Q (if c then x else x') (if c' then y else y') := by
  by_cases h : c
  · rwa [if_pos h, if_pos (hc.mp h)]
  · rwa [if_neg h, if_neg (mt hc.mpr h)]

/-- An expression that may be left out. -/
theorem TracksFrom.optional {c c' : Prop} [Decidable c] [Decidable c'] {x y : Read α} {k l : Option α → Read β}
    (hc : c ↔ c') (hx : Tracks Spans x y)
    (hk : ∀ o us input, Trails us → TracksFrom input (fun ts => Q (us ++ ts)) (k o) (l o)) :
    TracksFrom input Q (if c then Pure.pure none >>= k else some <$> x >>= k)
      (if c' then Pure.pure none >>= l else some <$> y >>= l) := by
  refine .ite hc ?_ (.bind (.map (hx _)) fun o us _ hus => hk o us _ hus.toEnds.trails)
  rw [pure_bind, pure_bind]
  exact hk none [] _ .nil

/-! ### Parts of expressions -/

theorem Tracks.dottedName (n more : Nat) : Tracks Spans (dottedName n) (dottedName (more + n)) := by
  induction n with
  | zero => exact fun _ => .fail
  | succ n ih =>
    intro input
    rw [← Nat.add_assoc]
    simp only [Read.dottedName, expectWord, bind_assoc]
    refine .next (fun _ => rfl) fun t rest _ => ?_
    cases t with
    | word s =>
      dsimp only
      rw [pure_bind, pure_bind]
      refine .skip (by decide) (fun _ => ?_) (.pure ?_)
      · rw [if_pos rfl, if_pos rfl]
        refine .bind (ih _) fun _ us _ hus => .pure ?_
        exact ⟨⟨by simp [Token.balanceOf, hus.balance], by simp [hus.signed]⟩, _, rfl, by simp⟩
      · exact ⟨⟨rfl, fun _ => rfl⟩, _, rfl, by simp⟩
    | _ => exact .failBind

theorem Tracks.leftRow {operand operand' : Read Expr} {op? : Token → Option (Expr → Expr → Expr)}
    (hoperand : Tracks Spans operand operand') (hop : ∀ t, (op? t).isSome = true → t.balance = 0)
    (hend : op? .endValue = none) (n more : Nat) (e : Expr) :
    Tracks Trails (leftRow operand op? n e) (leftRow operand' op? (more + n) e) := by
  induction n generalizing e with
  | zero => exact fun _ => .fail
  | succ n ih =>
    intro input
    rw [← Nat.add_assoc]
    simp only [Read.leftRow]
    refine .peek (fun _ => ?_) fun t rest hwords => ?_
    · simp only [Option.bind_none, Option.bind_some, hend]
      exact .pure .nil
    · simp only [Option.bind_some]
      cases hcombine : op? t with
      | none => exact .pure .nil
      | some combine =>
        have hbalance : t.balance = 0 := hop t (by simp [hcombine])
        refine .taken hwords fun _ => .bind (hoperand _) fun _ us _ hus => ?_
        refine .mono (ih _ _) fun vs hvs => ?_
        exact ⟨by simp [hbalance, hus.balance, hvs.balance], by simp [hus.signed, hvs.signed]⟩

/-- A row of operands is read like its operands. -/
theorem Tracks.row {operand operand' : Read Expr} {op? : Token → Option (Expr → Expr → Expr)}
    (hoperand : Tracks Spans operand operand') (hop : ∀ t, (op? t).isSome = true → t.balance = 0)
    (hend : op? .endValue = none) (n more : Nat) :
    Tracks Spans (operand >>= Read.leftRow operand op? n) (operand' >>= Read.leftRow operand' op? (more + n)) := by
  intro input
  refine .bind (hoperand _) fun e us _ hus => .mono (Tracks.leftRow hoperand hop hend n more e _) fun vs hvs => ?_
  exact hus.append hvs

theorem Tracks.adjacentStrings (n more : Nat) (s : String) :
    Tracks Trails (adjacentStrings n s) (adjacentStrings (more + n) s) := by
  induction n generalizing s with
  | zero => exact fun _ => .fail
  | succ n ih =>
    intro input
    rw [← Nat.add_assoc]
    simp only [Read.adjacentStrings]
    refine .peek (fun _ => .pure .nil) fun t rest hwords => ?_
    cases t with
    | string s' =>
      refine .taken hwords fun _ => .mono (ih _ _) fun us hus => ?_
      exact ⟨by simp [hus.balance], by simp [Token.isSign, hus.signed]⟩
    | _ => exact .pure .nil

theorem Tracks.itemsUntil {α : Type} {close : Symbol} {item item' : Read α} (hclose : Token.balanceOf close = -1)
    (hitem : Tracks (Ends 0) item item') (n more : Nat) (first : Bool) (done : List α) :
    Tracks (Ends (-1)) (itemsUntil close item n first done) (itemsUntil close item' (more + n) first done) := by
  have hsign : Token.isSign (.symbol close) = false := by
    cases close <;> first | rfl | cases hclose
  have hclosed : Ends (-1) [.symbol close] := ⟨by simp [hclose], by simp [hsign]⟩
  induction n generalizing first done with
  | zero => exact fun _ => .fail
  | succ n ih =>
    intro input
    rw [← Nat.add_assoc]
    have hnext : ∀ done, Tracks (Ends (-1)) (item >>= fun x => Read.itemsUntil close item n false (x :: done))
        (item' >>= fun x => Read.itemsUntil close item' (more + n) false (x :: done)) := by
      intro done input
      refine .bind (hitem _) fun x us _ hus => .mono (ih _ _ _) fun vs hvs => ?_
      exact ⟨by simp [hus.balance, hvs.balance], by simp [hvs.signed]⟩
    simp only [Read.itemsUntil]
    refine .skip (by simp) (fun _ => .pure hclosed) ?_
    cases first with
    | true => exact hnext _ _
    | false =>
      refine .expect fun _ => .skip (by simp) (fun _ => .pure ?_) (.mono (hnext _ _) fun us hus => ?_)
      · exact ⟨by simp [hclose]; rfl, by simp [hsign]⟩
      · exact ⟨by simp [hus.balance]; rfl, by simp [hus.signed]⟩

/-! ### Expressions -/

/-- With some fuel, all parts of expressions are read as with more fuel where a placeholder ends after them. -/
structure ReadsAlike (n : Nat) : Prop where
  expr : ∀ more, Tracks Spans (expr n) (expr (more + n))
  choices : ∀ more e, Tracks Trails (choices n e) (choices (more + n) e)
  disjunction : ∀ more, Tracks Spans (disjunction n) (disjunction (more + n))
  conjunction : ∀ more, Tracks Spans (conjunction n) (conjunction (more + n))
  negation : ∀ more, Tracks Spans (negation n) (negation (more + n))
  comparison : ∀ more, Tracks Spans (comparison n) (comparison (more + n))
  comparisons : ∀ more, Tracks Trails (comparisons n) (comparisons (more + n))
  sum : ∀ more, Tracks Spans (sum n) (sum (more + n))
  concatenation : ∀ more, Tracks Spans (concatenation n) (concatenation (more + n))
  product : ∀ more, Tracks Spans (product n) (product (more + n))
  power : ∀ more, Tracks Spans (power n) (power (more + n))
  operand : ∀ more, Tracks Spans (operand n) (operand (more + n))
  signed : ∀ more, Tracks Spans (signed n) (signed (more + n))
  postfixes : ∀ more e, Tracks Trails (postfixes n e) (postfixes (more + n) e)
  subscript : ∀ more e, Tracks (Ends (-1)) (subscript n e) (subscript (more + n) e)
  filters : ∀ more e, Tracks Trails (filters n e) (filters (more + n) e)
  optionalArguments : ∀ more, Tracks Trails (optionalArguments n) (optionalArguments (more + n))
  arguments : ∀ more, Tracks (Ends (-1)) (arguments n) (arguments (more + n))
  argument : ∀ more, Tracks (Ends 0) (argument n) (argument (more + n))
  primary : ∀ more, Tracks Spans (primary n) (primary (more + n))
  entry : ∀ more, Tracks (Ends 0) (entry n) (entry (more + n))

def brackets : List Symbol := [.openParen, .closeParen, .openBracket, .closeBracket, .openBrace, .closeBrace]

/-- An operator is no bracket. -/
theorem balance_of_op {α : Type} {op? : Token → Option α}
    (hop : ∀ s ∈ brackets, (op? (.symbol s)).isSome = false) (t : Token) (ht : (op? t).isSome = true) :
    t.balance = 0 := by
  cases t with
  | symbol s =>
    by_contra hbalance
    have hbracket : s ∈ brackets := by
      cases s <;> first | decide | exact absurd rfl hbalance
    exact Bool.false_ne_true ((hop s hbracket).symm.trans ht)
  | _ => rfl

namespace ReadsAlike

variable {n : Nat} (ih : ReadsAlike n) (more : Nat)
include ih

theorem expr_succ : Tracks Spans (Read.expr (n + 1)) (Read.expr (more + n + 1)) := by
  rw [Read.expr, Read.expr]
  refine .nested fun _ => .bind (ih.disjunction more _) fun e us _ hus => .mono (ih.choices more e _) fun vs hvs => ?_
  exact hus.append hvs

theorem choices_succ (e : Expr) : Tracks Trails (Read.choices (n + 1) e) (Read.choices (more + n + 1) e) := by
  intro input
  rw [Read.choices, Read.choices]
  refine .skip (by simp) (fun _ => ?_) (.pure .nil)
  refine .bind (ih.disjunction more _) fun test us _ hus => .skip (by simp) (fun _ => ?_) ?_
  · refine .bind (.map (ih.expr more _)) fun no vs _ hvs => .mono (ih.choices more _ _) fun ws hws => ?_
    exact ⟨by simp [hus.balance, hvs.balance, hws.balance], by simp [hvs.signed, hws.signed]⟩
  · refine .mono (ih.choices more _ _) fun vs hvs => ?_
    exact ⟨by simp [hus.balance, hvs.balance], by simp [hus.signed, hvs.signed]⟩

theorem disjunction_succ : Tracks Spans (Read.disjunction (n + 1)) (Read.disjunction (more + n + 1)) := by
  rw [Read.disjunction, Read.disjunction]
  exact .row (ih.conjunction more) (balance_of_op (by decide)) rfl n more

theorem conjunction_succ : Tracks Spans (Read.conjunction (n + 1)) (Read.conjunction (more + n + 1)) := by
  rw [Read.conjunction, Read.conjunction]
  exact .row (ih.negation more) (balance_of_op (by decide)) rfl n more

theorem negation_succ : Tracks Spans (Read.negation (n + 1)) (Read.negation (more + n + 1)) := by
  intro input
  rw [Read.negation, Read.negation]
  refine .skip (by simp) (fun _ => ?_) (ih.comparison more _)
  refine .bind (ih.negation more _) fun e us _ hus => .pure ?_
  exact ⟨⟨by simp [hus.balance], by simp [hus.signed]⟩, _, rfl, by simp⟩

theorem comparison_succ : Tracks Spans (Read.comparison (n + 1)) (Read.comparison (more + n + 1)) := by
  intro input
  rw [Read.comparison, Read.comparison]
  refine .bind (ih.sum more _) fun e us _ hus => .bind (ih.comparisons more _) fun rest vs _ hvs => .pure ?_
  rw [List.append_nil]
  exact hus.append hvs

theorem comparisons_succ : Tracks Trails (Read.comparisons (n + 1)) (Read.comparisons (more + n + 1)) := by
  have hrow : ∀ op, Tracks (Ends 0)
      (Read.sum n >>= fun e => Read.comparisons n >>= fun rest => Pure.pure ((op, e) :: rest))
      (Read.sum (more + n) >>= fun e => Read.comparisons (more + n) >>= fun rest => Pure.pure ((op, e) :: rest)) := by
    intro op input
    refine .bind (ih.sum more _) fun e us _ hus => .bind (ih.comparisons more _) fun rest vs _ hvs => .pure ?_
    exact ⟨by simp [hus.balance, hvs.balance], by simp [hus.signed, hvs.signed]⟩
  intro input
  rw [Read.comparisons, Read.comparisons]
  refine .peek (fun _ => .pure .nil) fun t rest hwords => ?_
  split
  case h_1 hnot =>
    cases hnot
    refine .taken hwords fun _ => .expect fun _ => .mono (hrow _ _) fun us hus => ?_
    exact ⟨by simp [hus.balance], by simp [hus.signed]⟩
  case h_2 t' _ heq =>
    cases heq
    cases hop : compareOp? t with
    | none => exact .pure .nil
    | some op =>
      have hbalance : t.balance = 0 := balance_of_op (by decide) t (Option.isSome_of_mem hop)
      refine .taken hwords fun _ => .mono (hrow _ _) fun us hus => ?_
      exact ⟨by simp [hbalance, hus.balance], by simp [hus.signed]⟩
  case h_3 => exact .pure .nil

theorem sum_succ : Tracks Spans (Read.sum (n + 1)) (Read.sum (more + n + 1)) := by
  rw [Read.sum, Read.sum]
  exact .row (ih.concatenation more) (balance_of_op (by decide)) rfl n more

theorem concatenation_succ : Tracks Spans (Read.concatenation (n + 1)) (Read.concatenation (more + n + 1)) := by
  rw [Read.concatenation, Read.concatenation]
  exact .row (ih.product more) (balance_of_op (by decide)) rfl n more

theorem product_succ : Tracks Spans (Read.product (n + 1)) (Read.product (more + n + 1)) := by
  rw [Read.product, Read.product]
  exact .row (ih.power more) (balance_of_op (by decide)) rfl n more

theorem power_succ : Tracks Spans (Read.power (n + 1)) (Read.power (more + n + 1)) := by
  rw [Read.power, Read.power]
  exact .row (ih.operand more) (balance_of_op (by decide)) rfl n more

theorem operand_succ : Tracks Spans (Read.operand (n + 1)) (Read.operand (more + n + 1)) := by
  intro input
  rw [Read.operand, Read.operand]
  refine .bind (ih.signed more _) fun e us _ hus => .bind (ih.postfixes more e _) fun e' vs _ hvs => ?_
  refine .mono (ih.filters more e' _) fun ws hws => ?_
  rw [← List.append_assoc]
  exact (hus.append hvs).append hws

theorem signed_succ : Tracks Spans (Read.signed (n + 1)) (Read.signed (more + n + 1)) := by
  intro input
  rw [Read.signed, Read.signed]
  refine .skip (by simp) (fun _ => ?_) (Tracks.nested (ih.primary more) _)
  refine .bind (ih.signed more _) fun e us _ hus => .pure ?_
  exact ⟨⟨by simp [hus.balance, Token.balanceOf], by simp [hus.signed]⟩, _, rfl, by simp⟩

theorem postfixes_succ (e : Expr) : Tracks Trails (Read.postfixes (n + 1) e) (Read.postfixes (more + n + 1) e) := by
  intro input
  rw [Read.postfixes, Read.postfixes]
  refine .peek (fun _ => .pure .nil) fun t rest hwords => ?_
  split
  case h_1 hdot =>
    cases hdot
    refine .taken hwords fun _ => .next (fun _ => rfl) fun t' rest' _ => ?_
    split
    case h_1 w hw =>
      cases hw
      refine .mono (ih.postfixes more _ _) fun us hus => ?_
      exact ⟨by simp [hus.balance, Token.balanceOf], by simp [Token.isSign, hus.signed]⟩
    case h_2 k hk =>
      cases hk
      refine .mono (ih.postfixes more _ _) fun us hus => ?_
      exact ⟨by simp [hus.balance, Token.balanceOf], by simp [Token.isSign, hus.signed]⟩
    case h_3 => exact .fail
  case h_2 hbracket =>
    cases hbracket
    refine .taken hwords fun _ => .bind (ih.subscript more e _) fun e' us _ hus => ?_
    refine .mono (ih.postfixes more _ _) fun vs hvs => ?_
    exact ⟨by simp [hus.balance, hvs.balance, Token.balanceOf], by simp [hus.signed, hvs.signed]⟩
  case h_3 hparen =>
    cases hparen
    refine .taken hwords fun _ => .bind (ih.arguments more _) fun args us _ hus => ?_
    refine .mono (ih.postfixes more _ _) fun vs hvs => ?_
    exact ⟨by simp [hus.balance, hvs.balance, Token.balanceOf], by simp [hus.signed, hvs.signed]⟩
  case h_4 => exact .pure .nil

theorem subscript_succ (e : Expr) :
    Tracks (Ends (-1)) (Read.subscript (n + 1) e) (Read.subscript (more + n + 1) e) := by
  intro input
  rw [Read.subscript, Read.subscript]
  refine .glimpse fun o o' ho => .optional (ho.eq_some_iff (by simp)) (ih.expr more) fun start us _ hus => ?_
  refine .skip (by simp) (fun _ => .glimpse fun o o' ho => ?_) (.expect fun _ => ?_)
  · have hends := or_congr (ho.eq_some_iff (t := .symbol .closeBracket) (by simp))
      (ho.eq_some_iff (t := .symbol .colon) (by simp))
    refine .optional hends (ih.expr more) fun stop vs _ hvs => ?_
    refine .skip (by simp) (fun _ => .glimpse fun o o' ho => ?_) ?_
    · refine .optional (ho.eq_some_iff (by simp)) (ih.expr more) fun step ws _ hws => .expect fun _ => .pure ?_
      exact ⟨by simp [hus.balance, hvs.balance, hws.balance, Token.balanceOf], by simp [Token.isSign]⟩
    · rw [if_neg Bool.false_ne_true, if_neg Bool.false_ne_true, pure_bind]
      refine .expect fun _ => .pure ?_
      exact ⟨by simp [hus.balance, hvs.balance, Token.balanceOf], by simp [Token.isSign]⟩
  · cases start with
    | none => exact .fail
    | some i =>
      exact .pure ⟨by simp [hus.balance, Token.balanceOf], by simp [Token.isSign]⟩

theorem filters_succ (e : Expr) : Tracks Trails (Read.filters (n + 1) e) (Read.filters (more + n + 1) e) := by
  intro input
  rw [Read.filters, Read.filters]
  refine .peek (fun _ => .pure .nil) fun t rest hwords => ?_
  split
  case h_1 hpipe =>
    cases hpipe
    refine .taken hwords fun _ => .bind (Tracks.dottedName n more _) fun name us _ hus => ?_
    refine .bind (ih.optionalArguments more _) fun args vs _ hvs => .mono (ih.filters more _ _) fun ws hws => ?_
    exact ⟨by simp [hus.balance, hvs.balance, hws.balance, Token.balanceOf],
      by simp [hus.signed, hvs.signed, hws.signed]⟩
  case h_2 his =>
    cases his
    refine .taken hwords fun _ => .perhaps (by simp) rfl rfl fun negated us _ hus => ?_
    refine .bind (Tracks.dottedName n more _) fun name vs _ hvs => .glimpse fun o o' ho => ?_
    refine .ite (ho.eq_some_iff (by simp)) ?_ (.ite (by rw [ho.startsTestOperand_eq]) ?_ ?_)
    · refine .bind (ih.optionalArguments more _) fun args ws _ hws => .mono (ih.filters more _ _) fun xs hxs => ?_
      exact ⟨by simp [hus.balance, hvs.balance, hws.balance, hxs.balance],
        by simp [hvs.signed, hws.signed, hxs.signed]⟩
    · refine .bind (ih.signed more _) fun a ws _ hws => .bind (ih.postfixes more a _) fun a' xs _ hxs => ?_
      rw [pure_bind, pure_bind]
      refine .mono (ih.filters more _ _) fun ys hys => ?_
      exact ⟨by simp [hus.balance, hvs.balance, hws.balance, hxs.balance, hys.balance],
        by simp [hws.signed, hxs.signed, hys.signed]⟩
    · rw [pure_bind, pure_bind]
      refine .mono (ih.filters more _ _) fun ws hws => ?_
      exact ⟨by simp [hus.balance, hvs.balance, hws.balance], by simp [hvs.signed, hws.signed]⟩
  case h_3 => exact .pure .nil

theorem optionalArguments_succ :
    Tracks Trails (Read.optionalArguments (n + 1)) (Read.optionalArguments (more + n + 1)) := by
  intro input
  rw [Read.optionalArguments, Read.optionalArguments]
  refine .skip (by simp) (fun _ => .mono (ih.arguments more _) fun us hus => ?_) (.pure .nil)
  exact ⟨by simp [hus.balance, Token.balanceOf], by simp [hus.signed]⟩

theorem arguments_succ : Tracks (Ends (-1)) (Read.arguments (n + 1)) (Read.arguments (more + n + 1)) := by
  intro input
  rw [Read.arguments, Read.arguments]
  dsimp only
  refine .bind (Tracks.itemsUntil rfl (ih.argument more) n more _ _ _) fun args us _ hus => ?_
  split
  · exact .failBind
  · split
    · exact .failBind
    · exact .pure (by rwa [List.append_nil])

theorem argument_succ : Tracks (Ends 0) (Read.argument (n + 1)) (Read.argument (more + n + 1)) := by
  intro input
  rw [Read.argument, Read.argument]
  refine .skip (by simp) (fun _ => ?_) (.skip (by simp) (fun _ => ?_) ?_)
  · refine .bind (ih.expr more _) fun e us _ hus => .pure ?_
    exact ⟨by simp [hus.balance, Token.balanceOf], by simp [hus.signed]⟩
  · refine .bind (ih.expr more _) fun e us _ hus => .pure ?_
    exact ⟨by simp [hus.balance, Token.balanceOf], by simp [hus.signed]⟩
  · refine .bind (ih.expr more _) fun e us _ hus => ?_
    have hplain : Ends 0 (us ++ []) := by
      rw [List.append_nil]
      exact hus.toEnds
    split
    · refine .skip (by simp) (fun _ => ?_) (.pure hplain)
      refine .bind (ih.expr more _) fun e vs _ hvs => .pure ?_
      exact ⟨by simp [hus.balance, hvs.balance, Token.balanceOf], by simp [hvs.signed]⟩
    · exact .pure hplain

theorem primary_succ : Tracks Spans (Read.primary (n + 1)) (Read.primary (more + n + 1)) := by
  have hitem : Tracks (Ends 0) (Read.expr n) (Read.expr (more + n)) :=
    fun _ => .mono (ih.expr more _) fun _ => Spans.toEnds
  intro input
  rw [Read.primary, Read.primary]
  refine .next (fun _ => rfl) fun t rest _ => ?_
  split
  case h_1 w hw =>
    cases hw
    have hword : Spans [.word w] := ⟨⟨rfl, fun _ => rfl⟩, _, rfl, by simp⟩
    split
    · exact .pure hword
    split
    · exact .pure hword
    split
    · exact .pure hword
    · exact .pure hword
  case h_2 s hs =>
    cases hs
    refine .bind (Tracks.adjacentStrings n more s _) fun s' us _ hus => .pure ?_
    exact ⟨⟨by simp [hus.balance], by simp [Token.isSign, hus.signed]⟩, _, rfl, by simp⟩
  case h_3 k hk =>
    cases hk
    exact .pure ⟨⟨rfl, fun _ => rfl⟩, _, rfl, by simp⟩
  case h_4 x hx =>
    cases hx
    exact .pure ⟨⟨rfl, fun _ => rfl⟩, _, rfl, by simp⟩
  case h_5 hparen =>
    cases hparen
    refine .skip (by simp) (fun _ => .pure ⟨⟨rfl, fun _ => rfl⟩, _, rfl, by simp⟩) ?_
    refine .bind (ih.expr more _) fun e us _ hus => .glimpse fun o o' ho => ?_
    refine .ite (ho.eq_some_iff (by simp)) ?_ (.expect fun _ => .pure ?_)
    · refine .bind (Tracks.itemsUntil rfl hitem n more _ _ _) fun es vs _ hvs => .pure ?_
      exact ⟨⟨by simp [hus.balance, hvs.balance, Token.balanceOf], by simp [hvs.signed]⟩, _, rfl, by simp⟩
    · exact ⟨⟨by simp [hus.balance, Token.balanceOf], by simp [Token.isSign]⟩, _, rfl, by simp⟩
  case h_6 hbracket =>
    cases hbracket
    refine .bind (Tracks.itemsUntil rfl hitem n more _ _ _) fun es us _ hus => .pure ?_
    exact ⟨⟨by simp [hus.balance, Token.balanceOf], by simp [hus.signed]⟩, _, rfl, by simp⟩
  case h_7 hbrace =>
    cases hbrace
    refine .bind (Tracks.itemsUntil rfl (ih.entry more) n more _ _ _) fun es us _ hus => .pure ?_
    exact ⟨⟨by simp [hus.balance, Token.balanceOf], by simp [hus.signed]⟩, _, rfl, by simp⟩
  case h_8 => exact .fail

theorem entry_succ : Tracks (Ends 0) (Read.entry (n + 1)) (Read.entry (more + n + 1)) := by
  intro input
  rw [Read.entry, Read.entry]
  refine .bind (ih.expr more _) fun k us _ hus => .expect fun _ => .bind (ih.expr more _) fun v vs _ hvs => .pure ?_
  exact ⟨by simp [hus.balance, hvs.balance, Token.balanceOf], by simp [hvs.signed]⟩

end ReadsAlike

/-- Expressions are read the same with more fuel, and with the end of a placeholder after them. -/
theorem readsAlike (n : Nat) : ReadsAlike n := by
  induction n with
  | zero => constructor <;> intros <;> exact fun _ => .fail
  | succ n ih =>
    exact {
      expr := ih.expr_succ
      choices := ih.choices_succ
      disjunction := ih.disjunction_succ
      conjunction := ih.conjunction_succ
      negation := ih.negation_succ
      comparison := ih.comparison_succ
      comparisons := ih.comparisons_succ
      sum := ih.sum_succ
      concatenation := ih.concatenation_succ
      product := ih.product_succ
      power := ih.power_succ
      operand := ih.operand_succ
      signed := ih.signed_succ
      postfixes := ih.postfixes_succ
      subscript := ih.subscript_succ
      filters := ih.filters_succ
      optionalArguments := ih.optionalArguments_succ
      arguments := ih.arguments_succ
      argument := ih.argument_succ
      primary := ih.primary_succ
      entry := ih.entry_succ }

end Read

/-- An expression that stands alone is read the same in a placeholder, and its words span it. -/
theorem readExpression_closed {text : String} {e : Expr} (h : readExpression text = .ok e) :
    Spans (Token.ofExpression text) ∧ (∀ t ∈ Token.ofExpression text, t.isFault = false) ∧
      ∃ left : Input, left.words = [] ∧ ∀ more after,
        (Read.expr (more + readingFuel (Token.ofExpression text))).run
          ⟨Token.ofExpression text ++ .endValue :: after, 0, [], false⟩ = .ok (e, left.closed after) := by
  obtain ⟨⟨e', left⟩, hread, he⟩ := map_eq_ok.mp h
  cases he
  obtain ⟨⟨e', out⟩, hexpr, hnext⟩ := bind_eq_ok.mp hread
  obtain ⟨words, depth, sections, inMacro⟩ := out
  cases words with
  | cons t rest => cases t <;> cases hnext
  | nil =>
    cases hnext
    obtain ⟨used, hwords, hsound, hspans, -⟩ := (Read.readsAlike _).expr 0 _ _ _ hexpr
    rw [List.append_nil] at hwords
    dsimp only at hwords
    subst hwords
    refine ⟨hspans, hsound, ⟨[], depth, sections, inMacro⟩, rfl, fun more after => ?_⟩
    obtain ⟨-, -, -, -, hclosed⟩ := (Read.readsAlike _).expr more _ _ _ hexpr
    exact hclosed after

end Casebook.Template
