import Mathlib
import Casebook.Proofs.Template.Output
import Casebook.Proofs.Template.Scanning
import Casebook.Resolve.Evaluator

/-! A placeholder with nothing but blanks around it: as a text it prints the value that it has as an expression. -/
namespace Casebook

namespace Template

/-! ### Reading -/

/-- The statement that some characters of text stand for. -/
def textOf (cs : List Char) : List Stmt := if cs.isEmpty then [] else [.text (String.ofList cs)]

theorem sectionsAll_append (body rest : List Stmt) :
    Stmt.sectionsAll (body ++ rest) = Stmt.sectionsAll body ++ Stmt.sectionsAll rest := by
  induction body with
  | nil => rfl
  | cons s body ih =>
    rw [List.cons_append, Stmt.sectionsAll, ih, Stmt.sectionsAll, List.append_assoc]

theorem sectionsAll_textOf (cs : List Char) : Stmt.sectionsAll (textOf cs) = [] := by
  unfold textOf
  split <;> rfl

namespace Read

variable {ends : List String} {n : Nat} {done : List Stmt} {words : List Token}

theorem run_body_nil (left : Input) (h : left.words = []) :
    (body ends (n + 1) done).run left = .ok (done.reverse, left) := by
  obtain ⟨words, depth, sections, inMacro⟩ := left
  cases h
  rfl

/-- Text takes at most one unit of fuel to read. -/
theorem run_body_data (ends : List String) (n : Nat) (done : List Stmt) (words : List Token) (cs : List Char)
    (input : Input) :
    ∃ k, n ≤ k ∧ (body ends (n + 1) done).run { input with words := Token.dataToken cs ++ words } =
      (body ends k ((textOf cs).reverse ++ done)).run { input with words := words } := by
  unfold Token.dataToken textOf
  split
  · exact ⟨n + 1, Nat.le_succ n, rfl⟩
  · exact ⟨n, Nat.le_refl n, rfl⟩

theorem mem_of_expect {t : Token} {input out : Input} (h : (expect t).run input = .ok ((), out)) :
    t ∈ input.words := by
  obtain ⟨⟨found, mid⟩, hnext, hout⟩ := bind_eq_ok.mp h
  have hfound : found = some t := by
    by_contra hne
    change (if found = some t then Pure.pure () else fail : Read Unit).run mid = _ at hout
    rw [if_neg hne] at hout
    cases hout
  obtain ⟨words, depth, sections, inMacro⟩ := input
  cases words with
  | nil =>
    cases hnext
    cases hfound
  | cons t' rest =>
    have hsame : t' = t := by
      cases t' <;> cases hnext <;> exact Option.some.inj hfound
    exact hsame ▸ List.mem_cons_self ..

end Read

/-- After the text before it, a placeholder reads as the expression that its inside is on its own. -/
theorem body_of_placeholder {ts words : List Token} {e : Expr} {left : Input} (hleft : left.words = [])
    (hclosed : ∀ more after, (Read.expr (more + readingFuel ts)).run ⟨ts ++ .endValue :: after, 0, [], false⟩ =
      .ok (e, left.closed after))
    (hinside : .endValue ∉ words ∨
      ∃ after', Text.Blank after' ∧ words = ts ++ .endValue :: Token.dataToken after')
    {fuel : Nat} (hfuel : .endValue ∈ words → readingFuel ts + 1 ≤ fuel) {done body : List Stmt} {out : Input}
    (hrun : (Read.body [] (fuel + 1) done).run ⟨.beginValue :: words, 0, [], false⟩ = .ok (body, out)) :
    ∃ after', Text.Blank after' ∧ body = done.reverse ++ .emit e :: textOf after' := by
  obtain ⟨⟨e', mid⟩, hexpr, hrest⟩ := bind_eq_ok.mp hrun
  obtain ⟨⟨⟨⟩, tail⟩, hexpect, hbody⟩ := bind_eq_ok.mp hrest
  rcases hinside with hnone | ⟨after', hafter', rfl⟩
  · -- The expression ends before the end of the placeholder, which there is not.
    obtain ⟨used, hwords, -⟩ := (Read.readsAlike fuel).expr 0 _ _ _ hexpr
    dsimp only at hwords
    rw [hwords] at hnone
    exact absurd (List.mem_append_right used (Read.mem_of_expect hexpect)) hnone
  · refine ⟨after', hafter', ?_⟩
    obtain ⟨more, rfl⟩ := Nat.exists_eq_add_of_le' (Nat.le_of_succ_le (hfuel (by simp)))
    obtain ⟨words, depth, sections, inMacro⟩ := left
    cases hleft
    cases hexpr.symm.trans (hclosed more (Token.dataToken after'))
    cases hexpect
    obtain ⟨rest, hrest⟩ : ∃ rest, more + readingFuel ts = rest + 2 :=
      ⟨more + readingFuel ts - 2, by rw [readingFuel]; omega⟩
    rw [hrest] at hbody
    obtain ⟨k, hk, hdata⟩ := Read.run_body_data [] (rest + 1) (.emit e :: done) [] after' ⟨[], depth, sections, inMacro⟩
    obtain ⟨k, rfl⟩ := Nat.exists_eq_add_of_le' (Nat.le_trans (Nat.le_add_left 1 rest) hk)
    rw [List.append_nil] at hdata
    cases (Read.run_body_nil _ rfl).symm.trans (hdata.symm.trans hbody)
    simp

/-- A template around one placeholder, whose inside is an expression on its own, reads as that expression. -/
theorem readTemplate_placeholder {before inner after : List Char} (hbefore : Text.Blank before)
    (hafter : Text.Blank after) (hhead : inner.head? ≠ some '-') (hpair : ¬['}', '}'] <:+: inner)
    {e : Expr} (he : readExpression (String.ofList (Text.trimList Text.isBlank inner)) = .ok e) {body : List Stmt}
    (hbody : readTemplate (Template.around before inner after) = .ok body) :
    ∃ after', Text.Blank after' ∧ body = textOf before ++ .emit e :: textOf after' := by
  obtain ⟨hspans, hsound, left, hleft, hclosed⟩ := readExpression_closed he
  obtain ⟨words, hwords, hinside⟩ := Token.ofTemplate_placeholder hbefore hafter hhead hpair rfl hspans hsound
  obtain ⟨⟨body', out⟩, hread, hsame⟩ := map_eq_ok.mp hbody
  cases hsame
  rw [hwords] at hread
  obtain ⟨fuel, hfuel⟩ : ∃ fuel, readingFuel (Token.dataToken before ++ .beginValue :: words) = fuel + 1 := ⟨_, rfl⟩
  rw [hfuel] at hread
  obtain ⟨k, hk, hdata⟩ := Read.run_body_data [] fuel [] (.beginValue :: words) before ⟨[], 0, [], false⟩
  replace hread := hdata.symm.trans hread
  rw [List.append_nil] at hread
  rw [readingFuel, List.length_append, List.length_cons] at hfuel
  obtain ⟨k, rfl⟩ : ∃ k', k = k' + 1 := ⟨k - 1, by omega⟩
  have henough : .endValue ∈ words →
      readingFuel (Token.ofExpression (String.ofList (Text.trimList Text.isBlank inner))) + 1 ≤ k := by
    intro hmem
    rcases hinside with hnone | ⟨after', -, rfl⟩
    · exact absurd hmem hnone
    · rw [List.length_append, List.length_cons] at hfuel
      rw [readingFuel]
      omega
  obtain ⟨after', hafter', hbody'⟩ := body_of_placeholder hleft hclosed hinside henough hread
  exact ⟨after', hafter', by rw [hbody', List.reverse_reverse]⟩

/-! ### Writing -/

namespace Eval

variable {call : Callee → Args → Eval Value}

theorem run_textOf_append (cs : List Char) (body : List Stmt) (m : Machine) :
    (execAll call (textOf cs ++ body)).run m = (execAll call body).run { m with out := m.out ++ String.ofList cs } := by
  unfold textOf
  split
  case isTrue hcs =>
    rw [List.isEmpty_iff] at hcs
    subst hcs
    simp
  case isFalse =>
    rw [List.singleton_append, execAll, exec]
    rfl

/-- What a printed value adds to the output, where no HTML is written. -/
theorem run_emit {v printed : Value} {m m' : Machine} (hhtml : m.html = false)
    (hsettle : (settle v).run m = .ok (printed, m)) (h : (emit v).run m = .ok ((), m')) :
    m' = { m with out := m.out ++ printed.display } := by
  obtain ⟨⟨existed, mid⟩, hexisting, hwrite⟩ := bind_eq_ok.mp h
  have hexisted : existed = printed ∧ mid = m := by
    unfold existing at hexisting
    split at hexisting
    · cases hexisting
    · cases hexisting.symm.trans hsettle
      exact ⟨rfl, rfl⟩
  obtain ⟨rfl, rfl⟩ := hexisted
  have hwritten : (write (if mid.html then existed.htmlText else existed.display)).run mid = .ok ((), m') := hwrite
  rw [hhtml] at hwritten
  cases hwritten
  rfl

/-- Around an expression, blanks are written with the text of its value between them. -/
theorem out_of_placeholder {fuel : Nat} {before after : List Char} {e : Expr} {v : Value} {m m' : Machine}
    (hout : m.out = "") (hhtml : m.html = false)
    (hvalue : (expr (invoke fuel) e >>= settle).run' m = .ok v)
    (hrun : (execAll (invoke fuel) (textOf before ++ .emit e :: textOf after)).run m = .ok ((), m')) :
    m'.out = String.ofList before ++ v.display ++ String.ofList after := by
  obtain ⟨⟨v', m₂⟩, hboth, hv⟩ := map_eq_ok.mp hvalue
  obtain ⟨⟨v₀, m₁⟩, hexpr, hsettle⟩ := bind_eq_ok.mp hboth
  cases hv
  obtain ⟨hout', hhtml'⟩ := expr_writes_nothing hexpr
  have hstart : { m with out := m.out ++ String.ofList before } = m.after (String.ofList before) := by
    simp [Machine.after, hout]
  rw [run_textOf_append, hstart, execAll, exec] at hrun
  obtain ⟨⟨⟨⟩, mid⟩, hemit, hrest⟩ := bind_eq_ok.mp hrun
  obtain ⟨⟨v₁, m₃⟩, hexpr', hemit⟩ := bind_eq_ok.mp hemit
  have hafter := run_expr_after fuel e (String.ofList before) m
  rw [show (expr (invoke fuel) e).run m = .ok (v₀, m₁) from hexpr] at hafter
  cases hexpr'.symm.trans hafter
  have hsettle' : (settle v₀).run (m₁.after (String.ofList before)) = .ok (v', m₁.after (String.ofList before)) := by
    cases hsettle
    rfl
  have hmid := run_emit (m := m₁.after (String.ofList before)) (hhtml'.trans hhtml) hsettle' hemit
  rw [← List.append_nil (textOf after)] at hrest
  have hlast := (run_textOf_append after [] mid).symm.trans hrest
  cases hlast
  rw [hmid]
  simp [Machine.after, hout', hout]

end Eval

/-! ### Values in JSON -/

/-- Integers and texts print the same in JSON as in a template. -/
theorem Value.display_of_toJson {v : Value} {j : Json.Value} (h : v.toJson = .ok j)
    (hkind : j.kindName = "integer" ∨ j.kindName = "string") : j.display = v.display := by
  have hnot : j.kindName = "null" ∨ j.kindName = "boolean" ∨ j.kindName = "float" ∨ j.kindName = "list" ∨
      j.kindName = "object" → j.display = v.display := by
    rintro (h | h | h | h | h) <;> simp [h] at hkind
  cases v with
  | int n size =>
    rw [toJson] at h
    cases hn : Json.Number.ofInt? n with
    | none =>
      rw [hn] at h
      cases h
    | some m =>
      rw [hn] at h
      cases h
      unfold Json.Number.ofInt? at hn
      split at hn <;> cases hn
      rfl
  | float x =>
    cases h
    refine hnot ?_
    unfold Json.Value.ofFloat Json.Number.ofFloat?
    split
    · exact .inr (.inr (.inl rfl))
    · exact .inl rfl
  | seq xs shape =>
    obtain ⟨ys, -, hys⟩ := bind_eq_ok.mp h
    split at hys <;> cases hys
    exact hnot (.inr (.inr (.inr (.inl rfl))))
  | repeated xs times =>
    obtain ⟨ys, -, hys⟩ := bind_eq_ok.mp h
    cases hys
    exact hnot (.inr (.inr (.inr (.inl rfl))))
  | map es named =>
    obtain ⟨ms, -, hms⟩ := bind_eq_ok.mp h
    cases hms
    exact hnot (.inr (.inr (.inr (.inr rfl))))
  | undefined =>
    cases h
    exact hnot (.inl rfl)
  | null =>
    cases h
    exact hnot (.inl rfl)
  | bool =>
    cases h
    exact hnot (.inr (.inl rfl))
  | _ =>
    cases h
    rfl

end Template

/-! ### Placeholders -/

theorem lonePlaceholder?_around {before inner after : List Char} (hbefore : Text.Blank before)
    (hafter : Text.Blank after) {e : String} (h : lonePlaceholder? (Template.around before inner after) = some e) :
    ¬['}', '}'] <:+: inner ∧ e = String.ofList (Text.trimList Text.isBlank inner) := by
  have htrim : Text.trimList Text.isBlank (Template.around before inner after).toList =
      '{' :: ('{' :: inner ++ ['}'] ++ ['}']) := by
    have hsplit : (Template.around before inner after).toList =
        before ++ ('{' :: ('{' :: inner ++ ['}'] ++ ['}']) ++ after) := by
      simp [Template.around]
    rw [hsplit, Text.trimList_append hbefore hafter, Text.trimList_eq_self (by decide) (by decide)]
  unfold lonePlaceholder? at h
  split at h
  case h_2 => cases h
  case h_1 rest hrest =>
    cases htrim.symm.trans hrest
    split at h
    case h_2 => cases h
    case h_1 back hback =>
      have hinner : back.reverse = inner := by
        simpa using (congrArg List.reverse hback).symm
      dsimp only at h
      rw [hinner] at h
      split at h
      case isTrue => cases h
      case isFalse hplain =>
        cases h
        rw [Bool.or_eq_true, Bool.or_eq_true, not_or, not_or] at hplain
        have hbreak := hplain.2
        rw [Text.contains, Bool.not_eq_true, Option.isSome_eq_false_iff, Option.isNone_iff_eq_none,
          String.toList_ofList, String.toList_ofList] at hbreak
        exact ⟨Text.not_infix_of_breakOn hbreak, by rw [Text.trim, Text.trimWith, String.toList_ofList]⟩

/-- Where a placeholder on its own renders and its inside has a value, that value is printed between blanks. -/
theorem Template.render_around {before inner after : List Char} (hbefore : Text.Blank before)
    (hafter : Text.Blank after) (hhead : inner.head? ≠ some '-') (hpair : ¬['}', '}'] <:+: inner)
    {context : List (String × Value)} {out : String} {v : Value}
    (hout : render (Template.around before inner after) context = .ok out)
    (hv : Template.evaluate (String.ofList (Text.trimList Text.isBlank inner)) context = .ok v) :
    Text.trim out = Text.trim v.display := by
  obtain ⟨e, he, hvalue⟩ := bind_eq_ok.mp hv
  obtain ⟨body, hbody, hrun⟩ := bind_eq_ok.mp hout
  obtain ⟨⟨⟨⟩, m⟩, hexec, hsame⟩ := bind_eq_ok.mp hrun
  cases hsame
  obtain ⟨after', hafter', rfl⟩ := readTemplate_placeholder hbefore hafter hhead hpair he hbody
  have hstart : Machine.start context (textOf before ++ .emit e :: textOf after') = Machine.start context [] := by
    have hsections : Stmt.sectionsAll (textOf before ++ .emit e :: textOf after') = [] := by
      rw [sectionsAll_append, sectionsAll_textOf, Stmt.sectionsAll, sectionsAll_textOf]
      rfl
    rw [Machine.start, hsections]
    rfl
  rw [hstart] at hexec
  have hm := Eval.out_of_placeholder rfl rfl hvalue hexec
  rw [hm, Text.trim, Text.trimWith, Text.trim, Text.trimWith, String.toList_append, String.toList_append,
    String.toList_ofList, String.toList_ofList, List.append_assoc, Text.trimList_append hbefore hafter']

theorem Template.valueOf_eq_ok {text : String} {scope : Scope} {index : Option Nat} {v : Json.Value} :
    evaluator.valueOf text scope index = .ok v ↔
      ∃ w, Template.evaluate text (context scope index) = .ok w ∧ w.isUndefined = false ∧ w.toJson = .ok v := by
  constructor
  · intro h
    obtain ⟨outcome, houtcome, hjson⟩ := bind_eq_ok.mp h
    obtain ⟨o, ho, hexists⟩ := bind_eq_ok.mp houtcome
    obtain ⟨w, hw, rfl⟩ := map_eq_ok.mp ho
    split at hexists
    case isTrue => cases hexists
    case isFalse hdefined =>
      cases hexists
      exact ⟨w, hw, Bool.not_eq_true _ ▸ hdefined, hjson⟩
  · rintro ⟨w, hw, hdefined, hjson⟩
    refine bind_eq_ok.mpr ⟨w.outcome, bind_eq_ok.mpr ⟨w.outcome, map_eq_ok.mpr ⟨w, hw, rfl⟩, ?_⟩, hjson⟩
    exact if_neg (Bool.not_eq_true _ ▸ hdefined)

theorem Template.renderValue_lone {text inside : String} {scope : Scope} {index : Option Nat}
    (htemplated : isTemplated text = true) (hlone : lonePlaceholder? text = some inside) :
    evaluator.renderValue text scope index = (evaluator.valueOf inside scope index).mapError (.template text) := by
  rw [Evaluator.renderValue, htemplated, hlone]
  rfl

/-- A scope with one number in it. -/
def countScope : Scope := .withVars [("count", .number (.integer 2 (by decide)))]

end Casebook
