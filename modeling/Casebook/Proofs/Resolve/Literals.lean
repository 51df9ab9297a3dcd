import Mathlib
import Casebook.Proofs.Fallible
import Casebook.Proofs.Resolve.LoopCounts
import Casebook.Proofs.Suite.Records
import Casebook.Resolve.Params

/-! What resolving keeps.  Data without the start of a placeholder or statement comes to itself in every scope, and any
value that resolves keeps its kind and its shape: only its texts are rendered, and an object may lose members whose keys
render alike. -/
namespace Casebook

section

variable {α β : Type} {R : α → β → Prop} {l : List α} {l' before after : List β} {b : β}

theorem exists_append_of_forall₂ (h : List.Forall₂ R l (before ++ b :: after)) :
    ∃ front a rest, l = front ++ a :: rest ∧ R a b ∧ List.Forall₂ R rest after := by
  have hdrop := List.forall₂_drop_append l before (b :: after) h
  obtain ⟨a, rest, hab, hrest, hl⟩ := List.forall₂_cons_right_iff.mp hdrop
  exact ⟨l.take before.length, a, rest, by rw [← hl, List.take_append_drop], hab, hrest⟩

theorem exists_of_mem_forall₂ (h : List.Forall₂ R l l') (hb : b ∈ l') : ∃ a ∈ l, R a b := by
  obtain ⟨before, after, rfl⟩ := List.append_of_mem hb
  obtain ⟨front, a, rest, rfl, hab, -⟩ := exists_append_of_forall₂ h
  exact ⟨a, by simp, hab⟩

end

/-! ### Literal data -/

/-- A text without the start of a placeholder or of a statement. -/
def IsLiteral (text : String) : Prop := ¬['{', '{'] <:+: text.toList ∧ ¬['{', '%'] <:+: text.toList

instance : DecidablePred IsLiteral := fun _ => inferInstanceAs (Decidable (_ ∧ _))

theorem isTemplated_eq_false_iff {text : String} : isTemplated text = false ↔ IsLiteral text := by
  rw [isTemplated, Bool.or_eq_false_iff, ← Bool.not_eq_true, ← Bool.not_eq_true, Text.contains_iff, Text.contains_iff]
  rfl

namespace Json.Value

mutual

/-- No text and no key, at any depth, has the start of a placeholder or of a statement. -/
def Literal : Value → Prop
  | .string s => IsLiteral s
  | .array xs => LiteralItems xs
  | .object ms => LiteralMembers ms
  | _ => True

def LiteralItems : List Value → Prop
  | [] => True
  | x :: xs => Literal x ∧ LiteralItems xs

def LiteralMembers : List (String × Value) → Prop
  | [] => True
  | (k, v) :: ms => IsLiteral k ∧ Literal v ∧ LiteralMembers ms

end

theorem literalMembers_iff {ms : Members} : LiteralMembers ms ↔ ∀ m ∈ ms, IsLiteral m.1 ∧ m.2.Literal := by
  induction ms with
  | nil => simp [LiteralMembers]
  | cons m ms ih => simp [LiteralMembers, ih, and_assoc]

end Json.Value

/-- A row whose value is taken as it is, and whose name and value are literal. -/
structure ParamEntry.IsLiteral (row : ParamEntry) : Prop where
  type : row.type = .auto
  name : Casebook.IsLiteral row.name
  value : row.value.Literal
  canonical : row.value.Canonical

namespace Evaluator

variable (ev : Evaluator) (scope : Scope) (index : Option Nat)

theorem renderText_of_isLiteral {text : String} (h : IsLiteral text) : ev.renderText text scope index = .ok text := by
  rw [renderText, isTemplated_eq_false_iff.mpr h, if_neg Bool.false_ne_true]

mutual

theorem resolve_of_literal : ∀ v : Json.Value, v.Canonical → v.Literal → ev.resolve scope index v = .ok v
  | .null, _, _ | .bool _, _, _ | .number _, _, _ => rfl
  | .string _, _, hs => ev.renderValue_of_not_isTemplated (isTemplated_eq_false_iff.mpr hs) scope index
  | .array xs, hc, hl => by
    rw [resolve, resolveItems_of_literal xs hc hl]
    rfl
  | .object ms, ⟨hsorted, hc⟩, hl => by
    rw [resolve, resolveMembers_of_literal ms hc hl]
    -- Its keys are in order, so that putting them in again one by one gives the same object.
    exact congrArg (fun ns => Except.ok (Json.Value.object ns)) hsorted.ofList_eq

theorem resolveItems_of_literal : ∀ xs : List Json.Value, Json.Value.CanonicalItems xs → Json.Value.LiteralItems xs →
    ev.resolveItems scope index xs = .ok xs
  | [], _, _ => rfl
  | x :: xs, ⟨hx, hxs⟩, ⟨hlx, hlxs⟩ => by
    rw [resolveItems, resolve_of_literal x hx hlx, resolveItems_of_literal xs hxs hlxs]
    rfl

theorem resolveMembers_of_literal : ∀ ms : List (String × Json.Value), Json.Value.CanonicalMembers ms →
    Json.Value.LiteralMembers ms → ev.resolveMembers scope index ms = .ok ms
  | [], _, _ => rfl
  | (k, v) :: ms, ⟨hv, hms⟩, ⟨hlk, hlv, hlms⟩ => by
    rw [resolveMembers, ev.renderText_of_isLiteral scope index hlk, resolve_of_literal v hv hlv,
      resolveMembers_of_literal ms hms hlms]
    rfl

end

theorem resolveRow_of_isLiteral {row : ParamEntry} (h : row.IsLiteral) :
    ev.resolveRow scope index row = .ok (row.name, row.value) := by
  rw [resolveRow, ev.renderText_of_isLiteral scope index h.name,
    ev.resolve_of_literal scope index _ h.canonical h.value, h.type]
  rfl

/-- Rows of literals come to their names and values, whatever the rows before them have written. -/
theorem resolveRows_of_isLiteral {rows : List ParamEntry} (h : ∀ row ∈ rows, row.IsLiteral) (role : ParamRole) :
    ev.resolveRows role index rows scope = (rows.map fun row => (row.name, row.value), none) := by
  induction rows generalizing scope with
  | nil => rfl
  | cons row rows ih =>
    obtain ⟨hrow, hrows⟩ := List.forall_mem_cons.mp h
    simp only [resolveRows, ev.resolveRow_of_isLiteral scope index hrow]
    rw [ih _ hrows, List.map_cons]

theorem resolveTable_of_isLiteral {rows : List ParamEntry} (h : ∀ row ∈ rows, row.IsLiteral) (role : ParamRole) :
    (ev.resolveTable role index rows scope).result = .ok (.ofPairs (rows.map fun row => (row.name, row.value))) := by
  rw [resolveTable, ev.resolveRows_of_isLiteral scope index h]
  rfl

theorem resolveTable_rowsOfMembers {ms : Json.Members} (hc : (Json.Value.object ms).Canonical)
    (hl : (Json.Value.object ms).Literal) (role : ParamRole) :
    (ev.resolveTable role index (rowsOfMembers ms) scope).result = .ok (.object ms) := by
  obtain ⟨hsorted, hc⟩ := hc
  have hrows : ∀ row ∈ rowsOfMembers ms, row.IsLiteral := by
    intro row hrow
    obtain ⟨m, hm, rfl⟩ := List.mem_map.mp hrow
    obtain ⟨hname, hvalue⟩ := Json.Value.literalMembers_iff.mp hl m hm
    exact ⟨rfl, hname, hvalue, Json.Value.canonicalMembers_iff.mp hc m hm⟩
  have hpairs : (rowsOfMembers ms).map (fun row => (row.name, row.value)) = ms := by
    simp [rowsOfMembers, Function.comp_def]
  rw [ev.resolveTable_of_isLiteral scope index hrows, hpairs, Json.Value.ofPairs, hsorted.ofList_eq]

/-- Literal data comes to itself in a scope at an iteration. -/
structure KeepsLiterals : Prop where
  value : ∀ v : Json.Value, v.Canonical → v.Literal → ev.resolve scope index v = .ok v
  json : ∀ (v : Json.Value) (role : ParamRole), v.Canonical → v.Literal →
    (ev.resolveParams (.json v) role index scope).result = .ok v
  /-- A table has the value of the last row of each name. -/
  table : ∀ (rows : List ParamEntry) (role : ParamRole), (∀ row ∈ rows, row.IsLiteral) →
    ∃ ms, (ev.resolveParams (.table rows) role index scope).result = .ok (.object ms) ∧ Dict.Sorted ms ∧
      ∀ name value, Dict.get? name ms = some value ↔ ∃ before row after, rows = before ++ row :: after ∧
        row.name = name ∧ row.value = value ∧ ∀ later ∈ after, later.name ≠ name
  /-- A table that has the members of an object as its rows comes to that object. -/
  rows : ∀ (ms : Json.Members) (role : ParamRole), (Json.Value.object ms).Canonical → (Json.Value.object ms).Literal →
    (ev.resolveParams (.table (rowsOfMembers ms)) role index scope).result = .ok (.object ms)
  text : ∀ (s : String) (role : ParamRole), IsLiteral s →
    (ev.resolveParams (.text s) role index scope).result = .ok (.string s)

theorem keepsLiterals : ev.KeepsLiterals scope index where
  value v hc hl := ev.resolve_of_literal scope index v hc hl
  json v role hc hl := by
    cases v with
    | object ms => exact ev.resolveTable_rowsOfMembers scope index hc hl role
    | _ => exact ev.resolve_of_literal scope index _ hc hl
  table rows role hrows := by
    refine ⟨_, ev.resolveTable_of_isLiteral scope index hrows role, Dict.sorted_ofList _, fun name value => ?_⟩
    rw [Dict.get?_ofList_eq_some_iff]
    constructor
    · rintro ⟨before, after, hpairs, hafter⟩
      obtain ⟨front, rest, rfl, -, hrest⟩ := List.map_eq_append_iff.mp hpairs
      obtain ⟨row, later, rfl, hrow, rfl⟩ := List.map_eq_cons_iff.mp hrest
      obtain ⟨rfl, rfl⟩ := Prod.mk.inj hrow
      exact ⟨front, row, later, rfl, rfl, rfl, fun r hr => hafter _ (List.mem_map_of_mem hr)⟩
    · rintro ⟨before, row, after, rfl, rfl, rfl, hafter⟩
      refine ⟨before.map fun r => (r.name, r.value), after.map fun r => (r.name, r.value), by simp, ?_⟩
      simpa using hafter
  rows ms role hc hl := ev.resolveTable_rowsOfMembers scope index hc hl role
  text s role hs := by
    rw [resolveParams, ev.renderText_of_isLiteral scope index hs]
    rfl

/-! ### Shapes -/

/-- The keys of an object that render to a key. -/
def alike (ms : Json.Members) (key : String) : Set String :=
  {k | k ∈ Dict.keys ms ∧ ev.renderText k scope index = .ok key}

/-- What an object comes to: its keys rendered, and where some render alike the value of the greatest of them. -/
structure Merges (ms ns : Json.Members) : Prop where
  sorted : Dict.Sorted ns
  renders : ∀ k ∈ Dict.keys ms, ∃ key ∈ Dict.keys ns, ev.renderText k scope index = .ok key
  keys : ∀ key, key ∈ Dict.keys ns ↔ (ev.alike scope index ms key).Nonempty
  value : ∀ key value, Dict.get? key ns = some value ↔
    ∃ m ∈ ms, IsGreatest (ev.alike scope index ms key) m.1 ∧ ev.resolve scope index m.2 = .ok value

/-- What a value comes to, by its form. -/
inductive Mirrors : Json.Value → Json.Value → Prop where
  | null : Mirrors .null .null
  | bool (b : Bool) : Mirrors (.bool b) (.bool b)
  | number (n : Json.Number) : Mirrors (.number n) (.number n)
  | string {s : String} {w : Json.Value} : ev.renderValue s scope index = .ok w → Mirrors (.string s) w
  | array {xs ys : List Json.Value} :
    List.Forall₂ (fun x y => ev.resolve scope index x = .ok y) xs ys → Mirrors (.array xs) (.array ys)
  | object {ms ns : Json.Members} : (Dict.Sorted ms → ev.Merges scope index ms ns) → Mirrors (.object ms) (.object ns)

/-- What a member comes to. -/
structure Becomes (m p : String × Json.Value) : Prop where
  key : ev.renderText m.1 scope index = .ok p.1
  value : ev.resolve scope index m.2 = .ok p.2

variable {ev scope index}

theorem forall₂_of_resolveItems {xs ys : List Json.Value} (h : ev.resolveItems scope index xs = .ok ys) :
    List.Forall₂ (fun x y => ev.resolve scope index x = .ok y) xs ys := by
  induction xs generalizing ys with
  | nil =>
    cases h
    exact .nil
  | cons x xs ih =>
    obtain ⟨y, hy, h⟩ := bind_eq_ok.mp h
    obtain ⟨rest, hrest, h⟩ := bind_eq_ok.mp h
    cases h
    exact .cons hy (ih hrest)

theorem forall₂_of_resolveMembers {ms : Json.Members} {pairs : List (String × Json.Value)}
    (h : ev.resolveMembers scope index ms = .ok pairs) : List.Forall₂ (ev.Becomes scope index) ms pairs := by
  induction ms generalizing pairs with
  | nil =>
    cases h
    exact .nil
  | cons m ms ih =>
    obtain ⟨key, hkey, h⟩ := bind_eq_ok.mp h
    obtain ⟨value, hvalue, h⟩ := bind_eq_ok.mp h
    obtain ⟨rest, hrest, h⟩ := bind_eq_ok.mp h
    cases h
    exact .cons ⟨hkey, hvalue⟩ (ih hrest)

section Merging

variable {ms : Json.Members} {pairs : List (String × Json.Value)} {key : String} {value : Json.Value}
  (h : List.Forall₂ (ev.Becomes scope index) ms pairs)

include h

theorem exists_key_of_mem {k : String} (hk : k ∈ Dict.keys ms) :
    ∃ key ∈ Dict.keys (Dict.ofList pairs), ev.renderText k scope index = .ok key := by
  obtain ⟨m, hm, rfl⟩ := List.mem_map.mp hk
  obtain ⟨p, hp, hbecomes⟩ := exists_of_mem_forall₂ (R := flip (ev.Becomes scope index)) h.flip hm
  exact ⟨p.1, Dict.mem_keys_ofList.mpr (List.mem_map_of_mem hp), hbecomes.key⟩

theorem mem_keys_iff_alike : key ∈ Dict.keys (Dict.ofList pairs) ↔ (ev.alike scope index ms key).Nonempty := by
  constructor
  · intro hkey
    obtain ⟨p, hp, rfl⟩ := List.mem_map.mp (Dict.mem_keys_ofList.mp hkey)
    obtain ⟨m, hm, hbecomes⟩ := exists_of_mem_forall₂ h hp
    exact ⟨m.1, List.mem_map_of_mem hm, hbecomes.key⟩
  · rintro ⟨k, hk, hrender⟩
    obtain ⟨other, hother, hrender'⟩ := exists_key_of_mem h hk
    cases hrender.symm.trans hrender'
    exact hother

/-- The keys ascend, so that the last pair of a key is the one of the greatest key that renders to it. -/
theorem exists_greatest_of_get? (hms : Dict.Sorted ms) (hget : Dict.get? key (Dict.ofList pairs) = some value) :
    ∃ m ∈ ms, IsGreatest (ev.alike scope index ms key) m.1 ∧ ev.resolve scope index m.2 = .ok value := by
  obtain ⟨before, after, rfl, hafter⟩ := Dict.get?_ofList_eq_some_iff.mp hget
  obtain ⟨front, m, rest, rfl, hm, hrest⟩ := exists_append_of_forall₂ h
  have hmem : m ∈ front ++ m :: rest := by simp
  refine ⟨m, hmem, ⟨⟨List.mem_map_of_mem hmem, hm.key⟩, ?_⟩, hm.value⟩
  rintro k ⟨hk, hkey⟩
  obtain ⟨m', hm', rfl⟩ := List.mem_map.mp hk
  rcases List.mem_append.mp hm' with hfront | hbehind
  · have hlt := (List.pairwise_append.mp (List.pairwise_map.mp hms)).2.2 m' hfront m List.mem_cons_self
    exact le_of_lt hlt
  · rcases List.mem_cons.mp hbehind with rfl | hbehind
    · exact le_refl _
    · -- A later member that renders alike would have put a later pair there.
      obtain ⟨p, hp, hbecomes⟩ := exists_of_mem_forall₂ (R := flip (ev.Becomes scope index)) hrest.flip hbehind
      exact absurd (Except.ok.inj (hbecomes.key.symm.trans hkey)) (hafter p hp)

theorem merges_ofList (hms : Dict.Sorted ms) : ev.Merges scope index ms (Dict.ofList pairs) where
  sorted := Dict.sorted_ofList pairs
  renders k hk := exists_key_of_mem h hk
  keys key := mem_keys_iff_alike h
  value key value := by
    refine ⟨exists_greatest_of_get? h hms, ?_⟩
    rintro ⟨m, hm, hgreatest, hvalue⟩
    have hkey : key ∈ Dict.keys (Dict.ofList pairs) := (mem_keys_iff_alike h).mpr ⟨m.1, hgreatest.1⟩
    obtain ⟨found, hfound⟩ := (Dict.sorted_ofList pairs).exists_get? hkey
    obtain ⟨m', hm', hgreatest', hvalue'⟩ := exists_greatest_of_get? h hms hfound
    -- The greatest key is one, and with it the member.
    have hsame : m'.2 = m.2 := by
      have hget' := hms.get?_eq_some_iff.mpr hm'
      rw [hgreatest'.unique hgreatest, hms.get?_eq_some_iff.mpr hm] at hget'
      exact (Option.some.inj hget').symm
    rw [hsame, hvalue] at hvalue'
    rw [hfound, Except.ok.inj hvalue']

end Merging

theorem mirrors_of_resolve {v w : Json.Value} (h : ev.resolve scope index v = .ok w) : ev.Mirrors scope index v w := by
  cases v with
  | null =>
    cases h
    exact .null
  | bool b =>
    cases h
    exact .bool b
  | number n =>
    cases h
    exact .number n
  | string s => exact .string h
  | array xs =>
    obtain ⟨ys, hys, hw⟩ := bind_eq_ok.mp h
    cases hw
    exact .array (forall₂_of_resolveItems hys)
  | object ms =>
    obtain ⟨pairs, hpairs, hw⟩ := bind_eq_ok.mp h
    cases hw
    exact .object (merges_ofList (forall₂_of_resolveMembers hpairs))

/-- Only texts come to values of another kind. -/
theorem Mirrors.kindName_eq {v w : Json.Value} (h : ev.Mirrors scope index v w) (hv : ∀ s, v ≠ .string s) :
    w.kindName = v.kindName := by
  cases h with
  | @string s => exact absurd rfl (hv s)
  | _ => rfl

variable (ev scope index)

/-- Literal data passes as it is, and whatever resolves keeps its shape, and its kind where it is no text. -/
theorem literals_are_kept : ev.KeepsLiterals scope index ∧
    ∀ v w, ev.resolve scope index v = .ok w →
      ev.Mirrors scope index v w ∧ ((∀ s, v ≠ .string s) → w.kindName = v.kindName) :=
  ⟨ev.keepsLiterals scope index, fun _ _ h => ⟨mirrors_of_resolve h, (mirrors_of_resolve h).kindName_eq⟩⟩

/-- A scope with one letter in it. -/
def letterScope : Scope := .withVars [("x", .string "a")]

/-- Texts and keys that come close to a placeholder and are none. -/
def nearMisses : Json.Value :=
  .array [.string "\x7b \x7b", .object [("%\x7d", .array [.null]), ("\x7b", .string "\x7d\x7d")]]

/-- Two keys that are one where `x` is the letter `a`. -/
def alikeKeys : Json.Members := [("a", .ofNat 1), ("\x7b\x7b x \x7d\x7d", .ofNat 2)]

theorem literals_are_kept_beside_templates :
    nearMisses.Canonical ∧ nearMisses.Literal ∧
      Template.evaluator.resolve letterScope (some 3) nearMisses = .ok nearMisses ∧
      ∃ ns, Template.evaluator.resolve letterScope (some 3) (.object alikeKeys) = .ok (.object ns) ∧
        Dict.get? "a" ns = some (.ofNat 2) := by
  have hkeys : ["%\x7d", "\x7b"].Pairwise (· < ·) := by decide
  have hcanonical : nearMisses.Canonical := ⟨trivial, ⟨hkeys, ⟨trivial, trivial⟩, trivial, trivial⟩, trivial⟩
  have htexts : ∀ s ∈ ["\x7b \x7b", "%\x7d", "\x7b", "\x7d\x7d"], IsLiteral s := by decide
  have hliteral : nearMisses.Literal := by
    simpa [nearMisses, Json.Value.Literal, Json.Value.LiteralItems, Json.Value.LiteralMembers] using htexts
  have hsorted : Dict.Sorted alikeKeys := by
    have halike : ["a", "\x7b\x7b x \x7d\x7d"].Pairwise (· < ·) := by decide
    exact halike
  have ha : Template.evaluator.renderText "a" letterScope (some 3) = .ok "a" := by
    cbv
  have hx : Template.evaluator.renderText "\x7b\x7b x \x7d\x7d" letterScope (some 3) = .ok "a" := by
    cbv
  have hresolve : Template.evaluator.resolve letterScope (some 3) (.object alikeKeys) =
      .ok (.ofPairs [("a", .ofNat 1), ("a", .ofNat 2)]) := by
    rw [resolve, alikeKeys, resolveMembers, resolveMembers, resolveMembers, ha, hx]
    rfl
  obtain ⟨hkeeps, hmirrors⟩ := literals_are_kept Template.evaluator letterScope (some 3)
  refine ⟨hcanonical, hliteral, hkeeps.value nearMisses hcanonical hliteral, _, hresolve, ?_⟩
  cases (hmirrors _ _ hresolve).1 with
  | object hmerges =>
    have hlast : ("\x7b\x7b x \x7d\x7d", Json.Value.ofNat 2) ∈ alikeKeys := by simp [alikeKeys]
    refine ((hmerges hsorted).value "a" (.ofNat 2)).mpr ⟨_, hlast, ⟨⟨List.mem_map_of_mem hlast, hx⟩, ?_⟩, rfl⟩
    rintro k ⟨hk, -⟩
    revert k
    decide

end Evaluator

end Casebook
