import Casebook.Cli.Options
import Casebook.Proofs.Decimal.Digits

/-! Arguments of the command line in any order.  Flags, settings with their values and other arguments may stand in any
order; only that of the other arguments counts, of which the first names the suite and the rest are cases. -/
namespace Casebook.Cli

open Decimal

/-! ### Ids -/

/-- Digits that write an id, after an optional plus. -/
def WritesId (text : String) (n : UInt64) : Prop :=
  ∃ digits, (text.toList = digits ∨ text.toList = '+' :: digits) ∧ WritesNat digits n.toNat

/-- Bounds that admit no negative number admit digits alone and after a plus. -/
theorem intIn?_zero_eq_some_iff {hi n : Int} {cs : List Char} : intIn? 0 hi cs = some n ↔
    (∃ digits k, (cs = digits ∨ cs = '+' :: digits) ∧ WritesNat digits k ∧ Int.ofNat k = n) ∧ n ≤ hi := by
  simp only [intIn?, Option.filter_eq_some_iff, Bool.and_eq_true, decide_eq_true_eq]
  split
  case h_1 rest =>
    rw [map_nat?_eq_some_iff]
    constructor
    · rintro ⟨⟨k, hk, rfl⟩, -, hle⟩
      exact ⟨⟨rest, k, .inr rfl, hk, rfl⟩, hle⟩
    · rintro ⟨⟨_, k, rfl | hplus, hk, rfl⟩, hle⟩
      · exact absurd (hk.digits '+' List.mem_cons_self) (by decide)
      · obtain rfl := (List.cons.inj hplus).2
        exact ⟨⟨k, hk, rfl⟩, Int.natCast_nonneg k, hle⟩
  case h_2 rest =>
    rw [if_neg (Int.lt_irrefl 0)]
    constructor
    · rintro ⟨⟨⟩, -⟩
    · rintro ⟨⟨_, k, rfl | hplus, hk, -⟩, -⟩
      · exact absurd (hk.digits '-' List.mem_cons_self) (by decide)
      · exact absurd (List.cons.inj hplus).1 (by decide)
  case h_3 hplus hminus =>
    rw [map_nat?_eq_some_iff]
    constructor
    · rintro ⟨⟨k, hk, rfl⟩, -, hle⟩
      exact ⟨⟨cs, k, .inl rfl, hk, rfl⟩, hle⟩
    · rintro ⟨⟨digits, k, hdigits, hk, rfl⟩, hle⟩
      obtain rfl := hdigits.resolve_right (hplus digits)
      exact ⟨⟨k, hk, rfl⟩, Int.natCast_nonneg k, hle⟩

theorem nat64?_eq_some_iff {text : String} {n : Nat} :
    nat64? text = some n ↔
      (∃ digits, (text.toList = digits ∨ text.toList = '+' :: digits) ∧ WritesNat digits n) ∧ n < 2 ^ 64 := by
  simp only [nat64?, Option.map_eq_some_iff, intIn?_zero_eq_some_iff]
  constructor
  · rintro ⟨_, ⟨⟨digits, k, hdigits, hwrites, rfl⟩, hle⟩, rfl⟩
    exact ⟨⟨digits, hdigits, hwrites⟩, by simp only [maxNat64] at hle; omega⟩
  · rintro ⟨⟨digits, hdigits, hwrites⟩, hlt⟩
    exact ⟨n, ⟨⟨digits, n, hdigits, hwrites, rfl⟩, by simp only [maxNat64]; omega⟩, rfl⟩

theorem id?_eq_some_iff {text : String} {n : UInt64} : Options.id? text = some n ↔ WritesId text n := by
  simp only [Options.id?, Option.map_eq_some_iff, nat64?_eq_some_iff]
  constructor
  · rintro ⟨k, ⟨hwrites, hk⟩, rfl⟩
    rwa [WritesId, UInt64.toNat_ofNat', Nat.mod_eq_of_lt hk]
  · exact fun hwrites => ⟨n.toNat, ⟨hwrites, n.toNat_lt⟩, UInt64.ofNat_toNat⟩

/-! ### Items -/

/-- How a flag is written. -/
def Flag.texts : Flag → List String
  | .parallel => ["--parallel"]
  | .failedStop => ["--failed-stop"]
  | .onlyFailedLog => ["--only-failed-log"]
  | .interrupt => ["--interrupt"]
  | .verbose => ["--verbose", "-v"]

/-- How a setting is written. -/
def Setting.text : Setting → String
  | .env => "--env"
  | .user => "--user"
  | .statusFile => "--status-file"
  | .report => "--report"

/-- A flag, a setting with the value that follows it, or an argument that is no option. -/
inductive Item where
  | flag (f : Flag) (text : String) (htext : text ∈ f.texts)
  | setting (s : Setting) (value : String)
  | other (text : String) (htext : text.startsWith "-" = false)

namespace Item

def arguments : Item → List String
  | .flag _ text _ => [text]
  | .setting s value => [s.text, value]
  | .other text _ => [text]

def flag? : Item → Option Flag
  | .flag f .. => some f
  | _ => none

/-- The value that an item gives to a setting. -/
def value? (s : Setting) : Item → Option String
  | .setting s' value => if s' = s then some value else none
  | _ => none

def other? : Item → Option String
  | .other text _ => some text
  | _ => none

end Item

/-- What an item changes, and whether the suite is named by then. -/
def Options.take (o : Options) (suiteSeen : Bool) : Item → Except ArgumentError (Options × Bool)
  | .flag f .. => .ok (o.raise f, suiteSeen)
  | .setting s value => (o.assign s value).map (·, suiteSeen)
  | .other text _ => (o.place suiteSeen text).map (·, true)

theorem Flag.ofText?_of_mem {f : Flag} {text : String} (h : text ∈ f.texts) : ofText? text = some f := by
  cases f <;> simp only [texts, List.mem_cons, List.not_mem_nil, or_false] at h
  case verbose => rcases h with rfl | rfl <;> rfl
  all_goals subst h; rfl

theorem Setting.ofText?_text (s : Setting) : ofText? s.text = some s := by
  cases s <;> rfl

section NoDash

variable {text : String} (htext : text.startsWith "-" = false)

include htext

theorem ne_of_dash {name : String} (hname : "-".toList <+: name.toList) : text ≠ name := by
  rintro rfl
  rw [String.startsWith_string_iff.mpr hname] at htext
  cases htext

theorem lookup_of_no_dash {α : Type} {names : List (String × α)} (hnames : ∀ p ∈ names, "-".toList <+: p.1.toList) :
    names.lookup text = none := by
  simp only [List.lookup_eq_none_iff, bne_iff_ne]
  exact fun p hp => ne_of_dash htext (hnames p hp)

theorem Flag.ofText?_of_no_dash : ofText? text = none := lookup_of_no_dash htext (by decide)

theorem Setting.ofText?_of_no_dash : ofText? text = none := lookup_of_no_dash htext (by decide)

end NoDash

theorem Command.read_item (o : Options) (suiteSeen : Bool) (item : Item) (rest : List String) :
    read o suiteSeen (item.arguments ++ rest) = (o.take suiteSeen item).bind fun p => read p.1 p.2 rest := by
  cases item with
  | flag f text htext =>
    have hhelp : ¬(text = "--help" ∨ text = "-h") := by
      rintro (rfl | rfl) <;> cases f <;> revert htext <;> decide
    have hversion : ¬(text = "--version" ∨ text = "-V") := by
      rintro (rfl | rfl) <;> cases f <;> revert htext <;> decide
    rw [Item.arguments, List.singleton_append, read, if_neg hhelp, if_neg hversion, Flag.ofText?_of_mem htext]
    rfl
  | setting s value =>
    have hhelp : ¬(s.text = "--help" ∨ s.text = "-h") := by cases s <;> decide
    have hversion : ¬(s.text = "--version" ∨ s.text = "-V") := by cases s <;> decide
    have hflag : Flag.ofText? s.text = none := by cases s <;> rfl
    rw [Item.arguments, List.cons_append, List.singleton_append, read, if_neg hhelp, if_neg hversion, hflag]
    simp only [Setting.ofText?_text, Options.take]
    cases o.assign s value with
    | ok o' => rfl
    | error e => rfl
  | other text htext =>
    have hhelp : ¬(text = "--help" ∨ text = "-h") :=
      not_or.mpr ⟨ne_of_dash htext (by decide), ne_of_dash htext (by decide)⟩
    have hversion : ¬(text = "--version" ∨ text = "-V") :=
      not_or.mpr ⟨ne_of_dash htext (by decide), ne_of_dash htext (by decide)⟩
    rw [Item.arguments, List.singleton_append, read, if_neg hhelp, if_neg hversion, Flag.ofText?_of_no_dash htext]
    simp only [Setting.ofText?_of_no_dash htext, htext, Options.take]
    cases o.place suiteSeen text with
    | ok o' => rfl
    | error e => rfl

/-! ### Items in a row -/

namespace Item

def argumentsOf (items : List Item) : List String := items.flatMap arguments

/-- The arguments that are no options, in their order. -/
def others (items : List Item) : List String := items.filterMap other?

/-- The values given to a setting. -/
def values (s : Setting) (items : List Item) : List String := items.filterMap (value? s)

/-- The last value given to a setting. -/
def lastValue? (s : Setting) (items : List Item) : Option String := (values s items).getLast?

def raises (f : Flag) (items : List Item) : Bool := items.any fun item => item.flag? == some f

/-- Every setting is given once at most. -/
def Once (items : List Item) : Prop := ∀ s, (values s items).length ≤ 1

variable {f : Flag} {text : String} (items : List Item)

@[simp] theorem others_flag (htext : text ∈ f.texts) : others (.flag f text htext :: items) = others items := rfl

@[simp] theorem others_setting (s : Setting) (value : String) : others (.setting s value :: items) = others items := rfl

@[simp] theorem others_other (htext : text.startsWith "-" = false) :
    others (.other text htext :: items) = text :: others items := rfl

@[simp] theorem values_flag (s : Setting) (htext : text ∈ f.texts) :
    values s (.flag f text htext :: items) = values s items := rfl

@[simp] theorem values_setting (s s' : Setting) (value : String) :
    values s (.setting s' value :: items) = if s' = s then value :: values s items else values s items := by
  split <;> simp [values, value?, *]

@[simp] theorem values_other (s : Setting) (htext : text.startsWith "-" = false) :
    values s (.other text htext :: items) = values s items := rfl

@[simp] theorem raises_flag (f' : Flag) (htext : text ∈ f.texts) :
    raises f' (.flag f text htext :: items) = (decide (f = f') || raises f' items) := rfl

@[simp] theorem raises_setting (f' : Flag) (s : Setting) (value : String) :
    raises f' (.setting s value :: items) = raises f' items := rfl

@[simp] theorem raises_other (f' : Flag) (htext : text.startsWith "-" = false) :
    raises f' (.other text htext :: items) = raises f' items := rfl

end Item

open Item

/-- What options become by items in their order, those that are to be ids being so. -/
def Options.after (o : Options) (suiteSeen : Bool) (items : List Item) : Options where
  suitePath := if suiteSeen then o.suitePath else (others items).head?.getD o.suitePath
  caseIds := o.caseIds ++ (if suiteSeen then others items else (others items).tail).filterMap id?
  parallel := o.parallel || raises .parallel items
  failedStop := o.failedStop || raises .failedStop items
  onlyFailedLog := o.onlyFailedLog || raises .onlyFailedLog items
  envId := ((values .env items).filterMap id?).getLast?.or o.envId
  user := (lastValue? .user items).getD o.user
  statusFile := (lastValue? .statusFile items).getD o.statusFile
  reportPath := (lastValue? .report items).or o.reportPath
  interrupt := o.interrupt || raises .interrupt items
  verbose := o.verbose || raises .verbose items

/-- All that are to be ids are so. -/
def Item.Readable (suiteSeen : Bool) (items : List Item) : Prop :=
  (∀ value ∈ values .env items, ∃ n, WritesId value n) ∧
    ∀ text ∈ if suiteSeen then others items else (others items).tail, ∃ n, WritesId text n

namespace Item

variable {suiteSeen : Bool} {f : Flag} {s : Setting} {text value : String} {items : List Item}

theorem readable_nil : Readable suiteSeen [] := by
  cases suiteSeen <;> exact ⟨nofun, nofun⟩

theorem readable_flag {htext : text ∈ f.texts} :
    Readable suiteSeen (.flag f text htext :: items) ↔ Readable suiteSeen items := Iff.rfl

theorem readable_setting : Readable suiteSeen (.setting s value :: items) ↔
    (s = .env → ∃ n, WritesId value n) ∧ Readable suiteSeen items := by
  by_cases hs : s = .env <;> simp [Readable, hs, and_assoc]

theorem readable_other {htext : text.startsWith "-" = false} : Readable suiteSeen (.other text htext :: items) ↔
    (suiteSeen = true → ∃ n, WritesId text n) ∧ Readable true items := by
  cases suiteSeen <;> simp [Readable, and_left_comm]

end Item

namespace Options

variable {o o' : Options} {suiteSeen : Bool} {s : Setting} {text value : String} {e : ArgumentError}

theorem after_nil (o : Options) (suiteSeen : Bool) : o.after suiteSeen [] = o := by
  cases suiteSeen <;> simp [after, others, lastValue?, values, raises]

theorem after_flag (o : Options) (suiteSeen : Bool) {f : Flag} (htext : text ∈ f.texts) (items : List Item) :
    o.after suiteSeen (.flag f text htext :: items) = (o.raise f).after suiteSeen items := by
  cases f <;> simp [after, raise, lastValue?]

theorem assign_eq_ok (h : o.assign s value = .ok o') (suiteSeen : Bool) (items : List Item) :
    (s = .env → ∃ n, WritesId value n) ∧
      o.after suiteSeen (.setting s value :: items) = o'.after suiteSeen items := by
  cases s
  case env =>
    cases hid : id? value with
    | none => simp [assign, hid] at h
    | some n =>
      simp only [assign, hid, Except.ok.injEq] at h
      subst h
      refine ⟨fun _ => ⟨n, id?_eq_some_iff.mp hid⟩, ?_⟩
      simp [after, lastValue?, List.getLast?_cons, hid]
  all_goals
    cases h
    refine ⟨nofun, ?_⟩
    simp [after, lastValue?, List.getLast?_cons]

theorem assign_eq_error (h : o.assign s value = .error e) : s = .env ∧ ¬∃ n, WritesId value n := by
  cases s
  case env =>
    cases hid : id? value with
    | none =>
      refine ⟨rfl, fun ⟨n, hn⟩ => ?_⟩
      rw [id?_eq_some_iff.mpr hn] at hid
      cases hid
    | some n => simp [assign, hid] at h
  all_goals cases h

theorem place_eq_ok (h : o.place suiteSeen text = .ok o') (htext : text.startsWith "-" = false) (items : List Item) :
    (suiteSeen = true → ∃ n, WritesId text n) ∧
      o.after suiteSeen (.other text htext :: items) = o'.after true items := by
  cases suiteSeen with
  | false =>
    cases h
    exact ⟨nofun, by simp [after, lastValue?]⟩
  | true =>
    cases hid : id? text with
    | none => simp [place, hid] at h
    | some n =>
      simp only [place, hid, if_pos, Except.ok.injEq] at h
      subst h
      exact ⟨fun _ => ⟨n, id?_eq_some_iff.mp hid⟩, by simp [after, lastValue?, hid]⟩

theorem place_eq_error (h : o.place suiteSeen text = .error e) : suiteSeen = true ∧ ¬∃ n, WritesId text n := by
  cases suiteSeen with
  | false => cases h
  | true =>
    cases hid : id? text with
    | none =>
      refine ⟨rfl, fun ⟨n, hn⟩ => ?_⟩
      rw [id?_eq_some_iff.mpr hn] at hid
      cases hid
    | some n => simp [place, hid] at h

end Options

/-- Items whose ids can be read become options, and others are refused. -/
theorem Command.read_arguments (o : Options) (suiteSeen : Bool) (items : List Item) :
    (Readable suiteSeen items → read o suiteSeen (argumentsOf items) = .ok (.run (o.after suiteSeen items))) ∧
      (¬Readable suiteSeen items → ∃ e, read o suiteSeen (argumentsOf items) = .error e) := by
  -- Every item read changes where the rest starts from, and the first other argument what the later ones are to be.
  induction items generalizing o suiteSeen with
  | nil =>
    rw [Options.after_nil]
    exact ⟨fun _ => rfl, fun h => absurd readable_nil h⟩
  | cons item items ih =>
    rw [argumentsOf, List.flatMap_cons, read_item]
    cases item with
    | flag f text htext =>
      rw [readable_flag, o.after_flag]
      exact ih (o.raise f) suiteSeen
    | setting s value =>
      rw [readable_setting]
      cases h : o.assign s value with
      | ok o' =>
        obtain ⟨hvalue, hafter⟩ := Options.assign_eq_ok h suiteSeen items
        rw [hafter, and_iff_right hvalue, Options.take, h]
        exact ih o' suiteSeen
      | error e =>
        obtain ⟨rfl, hvalue⟩ := Options.assign_eq_error h
        rw [Options.take, h]
        exact ⟨fun hreadable => absurd (hreadable.1 rfl) hvalue, fun _ => ⟨e, rfl⟩⟩
    | other text htext =>
      rw [readable_other]
      cases h : o.place suiteSeen text with
      | ok o' =>
        obtain ⟨hid, hafter⟩ := Options.place_eq_ok h htext items
        rw [hafter, and_iff_right hid, Options.take, h]
        exact ih o' true
      | error e =>
        obtain ⟨rfl, hid⟩ := Options.place_eq_error h
        rw [Options.take, h]
        exact ⟨fun hreadable => absurd (hreadable.1 rfl) hid, fun _ => ⟨e, rfl⟩⟩

theorem Command.exists_ofArgs_iff {items : List Item} :
    (∃ c, ofArgs (argumentsOf items) = .ok c) ↔ Readable false items := by
  obtain ⟨haccepted, hrefused⟩ := read_arguments .default false items
  refine ⟨fun ⟨c, hc⟩ => ?_, fun h => ⟨_, haccepted h⟩⟩
  by_contra h
  obtain ⟨e, he⟩ := hrefused h
  rw [ofArgs, he] at hc
  cases hc

/-! ### Any order -/

/-- Ids are read one by one. -/
theorem forall₂_writesId {texts : List String} (h : ∀ text ∈ texts, ∃ n, WritesId text n) :
    List.Forall₂ WritesId texts (texts.filterMap Options.id?) := by
  induction texts with
  | nil => exact .nil
  | cons text texts ih =>
    obtain ⟨⟨n, hn⟩, hrest⟩ := List.forall_mem_cons.mp h
    rw [List.filterMap_cons_some (id?_eq_some_iff.mpr hn)]
    exact .cons hn (ih hrest)

namespace Item

variable {items items' : List Item}

theorem mem_values {s : Setting} {value : String} : value ∈ values s items ↔ .setting s value ∈ items := by
  simp only [values, List.mem_filterMap]
  constructor
  · rintro ⟨item, hitem, hvalue⟩
    cases item with
    | setting s' value' =>
      rw [value?] at hvalue
      split at hvalue
      · rename_i hs
        cases hvalue
        exact hs ▸ hitem
      · cases hvalue
    | _ => cases hvalue
  · exact fun h => ⟨_, h, if_pos rfl⟩

theorem Once.values_perm (honce : Once items) (hperm : items'.Perm items) (s : Setting) :
    values s items' = values s items := by
  have hvalues : (values s items').Perm (values s items) := hperm.filterMap (value? s)
  have hlength := honce s
  cases h : values s items with
  | nil => rwa [h, List.perm_nil] at hvalues
  | cons value rest =>
    rw [h, List.length_cons, Nat.succ_le_iff, Nat.lt_one_iff, List.length_eq_zero_iff] at hlength
    rwa [h, hlength, List.perm_singleton, ← hlength] at hvalues

theorem raises_perm (hperm : items'.Perm items) (f : Flag) : raises f items' = raises f items := hperm.any_eq

end Item

/-- Whether a flag was given. -/
def Options.raised (o : Options) : Flag → Bool
  | .parallel => o.parallel
  | .failedStop => o.failedStop
  | .onlyFailedLog => o.onlyFailedLog
  | .interrupt => o.interrupt
  | .verbose => o.verbose

/-- Each field of the options comes from the items that are about it alone. -/
structure Options.Reflects (o : Options) (items : List Item) : Prop where
  suitePath : o.suitePath = (others items).head?.getD "suite.yaml"
  caseIds : List.Forall₂ WritesId (others items).tail o.caseIds
  raised : ∀ f, o.raised f = true ↔ ∃ text htext, .flag f text htext ∈ items
  envId : ∀ n, o.envId = some n ↔ ∃ value, .setting .env value ∈ items ∧ WritesId value n
  user : o.user = (lastValue? .user items).getD "default"
  statusFile : o.statusFile = (lastValue? .statusFile items).getD ".caserunner/status.json"
  reportPath : o.reportPath = lastValue? .report items

theorem Item.raises_iff {f : Flag} {items : List Item} :
    raises f items = true ↔ ∃ text htext, .flag f text htext ∈ items := by
  simp only [raises, List.any_eq_true, beq_iff_eq]
  constructor
  · rintro ⟨item, hitem, hf⟩
    cases item with
    | flag f' text htext =>
      cases hf
      exact ⟨text, htext, hitem⟩
    | _ => cases hf
  · rintro ⟨text, htext, h⟩
    exact ⟨_, h, rfl⟩

/-- Where every setting is given once, the options are those given. -/
theorem Options.after_reflects {items : List Item} (honce : Once items) (hreadable : Readable false items) :
    (default.after false items).Reflects items where
  suitePath := rfl
  caseIds := forall₂_writesId hreadable.2
  raised f := by
    rw [← raises_iff]
    cases f <;> simp [after, raised, default]
  envId n := by
    have hlength := honce .env
    have hids := hreadable.1
    simp only [← mem_values, after, default, Option.or_none, ← id?_eq_some_iff]
    cases hvalues : values .env items with
    | nil => simp
    | cons value rest =>
      rw [hvalues] at hlength hids
      obtain rfl : rest = [] := List.length_eq_zero_iff.mp (Nat.le_zero.mp (Nat.le_of_succ_le_succ hlength))
      obtain ⟨m, hm⟩ := hids value List.mem_cons_self
      simp [id?_eq_some_iff.mpr hm]
  user := rfl
  statusFile := rfl
  reportPath := by simp [after, default]

/-- Flags, settings that are each given once with whatever value, and other arguments are accepted just if the value for
the environment and all other arguments but the first are ids, whichever way they are mixed; the options are then the
same for every order that keeps that of the other arguments, and each field comes from its own items. -/
theorem options_commute {items : List Item} (honce : Once items) :
    ((∃ c, Command.ofArgs (argumentsOf items) = .ok c) ↔
      (∀ value, .setting .env value ∈ items → ∃ n, WritesId value n) ∧
        ∀ text ∈ (others items).tail, ∃ n, WritesId text n) ∧
    (∀ c, Command.ofArgs (argumentsOf items) = .ok c → ∃ o : Options, c = .run o ∧ o.Reflects items) ∧
    ∀ items', items'.Perm items → others items' = others items →
      (∃ e e', Command.ofArgs (argumentsOf items) = .error e ∧ Command.ofArgs (argumentsOf items') = .error e') ∨
        ∃ o : Options, Command.ofArgs (argumentsOf items) = .ok (.run o) ∧
          Command.ofArgs (argumentsOf items') = .ok (.run o) := by
  refine ⟨?_, fun c hc => ?_, fun items' hperm hothers => ?_⟩
  · rw [Command.exists_ofArgs_iff]
    simp only [Readable, mem_values, Bool.false_eq_true, if_false]
  · have hreadable : Readable false items := Command.exists_ofArgs_iff.mp ⟨c, hc⟩
    have hrun := (Command.read_arguments .default false items).1 hreadable
    exact ⟨_, Except.ok.inj (hc.symm.trans hrun), Options.after_reflects honce hreadable⟩
  · have hvalues := honce.values_perm hperm
    have hreadable : Readable false items' ↔ Readable false items := by
      rw [Readable, Readable, hvalues, hothers]
    have hafter : Options.default.after false items' = Options.default.after false items := by
      simp only [Options.after, lastValue?, hvalues, hothers, raises_perm hperm]
    obtain ⟨haccepted, hrefused⟩ := Command.read_arguments .default false items
    obtain ⟨haccepted', hrefused'⟩ := Command.read_arguments .default false items'
    by_cases h : Readable false items
    · exact .inr ⟨_, haccepted h, hafter ▸ haccepted' (hreadable.mpr h)⟩
    · obtain ⟨e, he⟩ := hrefused h
      obtain ⟨e', he'⟩ := hrefused' (mt hreadable.mp h)
      exact .inl ⟨e, e', he, he'⟩

/-- A user named like an option, a report named like another, and a number as the suite. -/
theorem values_like_options_commute :
    ∃ items items' : List Item, Once items ∧ items'.Perm items ∧ others items' = others items ∧
      argumentsOf items = ["--user", "--help", "7", "-v", "+2", "--env", "007", "--report", "--env"] ∧
      argumentsOf items' = ["--env", "007", "--report", "--env", "--user", "--help", "7", "-v", "+2"] ∧
      ∃ o : Options, Command.ofArgs (argumentsOf items) = .ok (.run o) ∧
        Command.ofArgs (argumentsOf items') = .ok (.run o) ∧ o.suitePath = "7" ∧ o.caseIds = [2] ∧ o.envId = some 7 ∧
        o.user = "--help" ∧ o.reportPath = some "--env" ∧ o.verbose = true := by
  have hseven : "7".startsWith "-" = false := by cbv
  have htwo : "+2".startsWith "-" = false := by cbv
  have hverbose : "-v" ∈ Flag.verbose.texts := by decide
  have honce : Once ([.setting .user "--help", .other "7" hseven, .flag .verbose "-v" hverbose, .other "+2" htwo] ++
      [.setting .env "007", .setting .report "--env"]) := by
    intro s
    cases s with
    | statusFile => exact Nat.zero_le 1
    | _ => exact Nat.le_refl 1
  have hrun : Command.ofArgs ["--user", "--help", "7", "-v", "+2", "--env", "007", "--report", "--env"] =
      .ok (.run { Options.default with
        suitePath := "7", caseIds := [2], envId := some 7, user := "--help", reportPath := some "--env"
        verbose := true }) := by
    cbv
  refine ⟨_, _, honce, List.perm_append_comm, rfl, rfl, rfl, _, hrun, ?_, rfl, rfl, rfl, rfl, rfl, rfl⟩
  obtain ⟨-, -, hcommute⟩ := options_commute honce
  rcases hcommute _ List.perm_append_comm rfl with ⟨e, _, he, -⟩ | ⟨o, ho, ho'⟩
  · cases hrun.symm.trans he
  · exact ho'.trans (ho.symm.trans hrun)

end Casebook.Cli
