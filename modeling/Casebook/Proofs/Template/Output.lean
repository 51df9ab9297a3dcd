import Casebook.Template.Eval

/-! Templates add to the output and take no look at it.  What is written before a statement changes nothing but the
start of the output, and an expression leaves the output as it was. -/
namespace Casebook.Template

/-- A machine that has written some text before. -/
def Machine.after (o : String) (m : Machine) : Machine := { m with out := o ++ m.out }

namespace Eval

/-- What is known of a machine: whether it writes HTML, and perhaps its output. -/
structure Known where
  html : Bool
  out : Option String

/-- What is known holds of a machine. -/
def Known.Of (w : Known) (m : Machine) : Prop := m.html = w.html ∧ ∀ out ∈ w.out, m.out = out

/-- Nothing is known of the output. -/
abbrev Known.writing (html : Bool) : Known := ⟨html, none⟩

variable {α β : Type} {o : String} {w w' w'' : Known}

/-- One action does after some text what another does without it, and it leads from what is known before to what is
known afterwards. -/
def Follows (o : String) (w w' : Known) (x y : Eval α) : Prop :=
  ∀ m : Machine, w.Of m →
    y.run (m.after o) = (x.run m).map (fun p => (p.1, p.2.after o)) ∧ ∀ p, x.run m = .ok p → w'.Of p.2

/-- An action takes no look at the output and keeps what is known. -/
abbrev Appends (o : String) (w : Known) (x : Eval α) : Prop := Follows o w w x x

theorem Follows.pure (a : α) : Appends o w (Pure.pure a : Eval α) := by
  intro m hm
  refine ⟨rfl, fun p hp => ?_⟩
  cases hp
  exact hm

theorem Follows.throw (f : Fault) : Follows o w w' (throw f : Eval α) (MonadExcept.throw f) :=
  fun _ _ => ⟨rfl, fun _ hp => (nomatch hp)⟩

theorem Follows.lift (x : Except Fault α) : Appends o w (liftM x : Eval α) := by
  cases x with
  | error f => exact .throw f
  | ok a => exact .pure a

theorem Follows.bind {x y : Eval α} {k l : α → Eval β} (hx : Follows o w w' x y)
    (hk : ∀ a, Follows o w' w'' (k a) (l a)) : Follows o w w'' (x >>= k) (y >>= l) := by
  intro m hm
  obtain ⟨hrun, hknown⟩ := hx m hm
  rw [StateT.run_bind, StateT.run_bind, hrun]
  cases hxm : x.run m with
  | error f => exact ⟨rfl, fun _ hp => (nomatch hp)⟩
  | ok p => exact hk p.1 p.2 (hknown p hxm)

theorem Follows.get {k l : Machine → Eval β} (hk : ∀ m, w.Of m → Follows o w w' (k m) (l (m.after o))) :
    Follows o w w' (MonadState.get >>= k) (MonadState.get >>= l) := fun m hm => hk m hm m hm

theorem Follows.modify {f g : Machine → Machine} (hout : ∀ m, g (m.after o) = (f m).after o)
    (hknown : ∀ m, w.Of m → w'.Of (f m)) :
    Follows o w w' (modify f : Eval PUnit) (modify g) := by
  intro m hm
  refine ⟨?_, fun p hp => ?_⟩
  · change Except.ok (PUnit.unit, g (m.after o)) = Except.ok (PUnit.unit, (f m).after o)
    rw [hout]
  · cases hp
    exact hknown m hm

theorem Follows.set {m : Machine} (hm : w'.Of m) :
    Follows o w w' (MonadStateOf.set m : Eval PUnit) (MonadStateOf.set (m.after o)) := by
  refine fun _ _ => ⟨rfl, fun p hp => ?_⟩
  cases hp
  exact hm

theorem Follows.ite {c : Prop} [Decidable c] {x x' y y' : Eval α} (hyes : Follows o w w' x y)
    (hno : Follows o w w' x' y') : Follows o w w' (if c then x else x') (if c then y else y') := by
  split
  · exact hyes
  · exact hno

theorem Follows.guard {c : Prop} [Decidable c] {f : Fault} {x y : Eval α} (h : Follows o w w' x y) :
    Follows o w w' (if c then MonadExcept.throw f >>= fun _ : PUnit => x else x)
      (if c then MonadExcept.throw f >>= fun _ : PUnit => y else y) :=
  .ite (.bind (.throw f) fun _ => h) h

theorem Follows.forIn {f : α → β → Eval (ForInStep β)} (h : ∀ a c, Appends o w (f a c)) (as : List α)
    (c : β) : Appends o w (forIn as c f) := by
  induction as generalizing c with
  | nil => exact .pure _
  | cons a as ih =>
    rw [List.forIn_cons]
    refine .bind (h a c) fun step => ?_
    cases step with
    | done c => exact .pure _
    | yield c => exact ih c

theorem Follows.filterM {p : α → Eval Bool} (h : ∀ a, Appends o w (p a)) (as : List α) :
    Appends o w (as.filterM p) := by
  have haux : ∀ as acc, Appends o w (List.filterAuxM p as acc) := by
    intro as
    induction as with
    | nil => exact fun _ => .pure _
    | cons a as ih => exact fun acc => .bind (h a) fun _ => ih _
  exact .bind (haux as []) fun _ => .pure _

theorem Follows.mapM {f : α → Eval β} (h : ∀ a, Appends o w (f a)) (as : List α) : Appends o w (as.mapM f) := by
  induction as with
  | nil => exact .pure _
  | cons a as ih =>
    rw [List.mapM_cons]
    exact .bind (h a) fun _ => .bind ih fun _ => .pure _

theorem appends_settle (v : Value) : Appends o w (settle v) := .get fun _ _ => .pure _

theorem appends_truth (v : Value) : Appends o w (truth v) := by
  unfold truth
  split
  · exact .throw _
  · exact .bind (appends_settle v) fun _ => .pure _

theorem appends_existing (v : Value) : Appends o w (existing v) := by
  unfold existing
  split
  · exact .throw _
  · exact appends_settle v

theorem appends_part (v key : Value) : Appends o w (part v key) := by
  unfold part
  split
  · exact .throw _
  · exact .get fun _ _ => .pure _
  · exact .pure _

theorem appends_lookup (name : String) : Appends o w (lookup? name) := by
  unfold lookup?
  refine .get fun m hm => ?_
  dsimp only [Machine.after]
  split
  · exact .pure _
  · exact .pure _

theorem appends_newRecord (args : Args) : Appends o w (newRecord args) := by
  unfold newRecord
  refine .bind (.lift _) fun base => .bind (.mapM (fun e => ?_) _) fun entries => .get fun m hm => ?_
  · split
    split
    · exact .pure _
    · exact .throw _
  · exact .bind (.set hm) fun _ => .pure _

theorem appends_callBuiltin (name : String) (args : Args) : Appends o w (callBuiltin name args) := by
  unfold callBuiltin
  refine .bind (.mapM appends_settle _) fun args => ?_
  split
  · exact .lift _
  · exact .lift _
  · exact .pure _
  · exact appends_newRecord _

theorem appends_loopMethod (id index : Nat) (name : String) (args : Args) :
    Appends o w (loopMethod id index name args) := by
  unfold loopMethod
  split
  · split
    · exact .pure _
    · exact .throw _
  · exact .bind (.mapM appends_settle _) fun args => .get fun m hm => .bind (.set hm) fun _ => .pure _
  · exact .throw _

theorem appends_applyFilter (name : String) (v : Value) (args : Args) :
    Appends o w (applyFilter name v args) := by
  unfold applyFilter
  exact .bind (appends_settle v) fun v => .bind (.mapM appends_settle _) fun args => .get fun m hm => .lift _

/-! ### Expressions

An expression appends if its parts do. -/

section

variable {call : Callee → Args → Eval Value}

theorem appends_const (v : Value) : Appends o w (expr call (.const v)) := by
  rw [expr]
  exact .pure _

theorem appends_name (id : String) : Appends o w (expr call (.name id)) := by
  rw [expr]
  exact .bind (appends_lookup id) fun _ => .pure _

theorem appends_neg {e : Expr} (h : Appends o w (expr call e)) : Appends o w (expr call (.neg e)) := by
  rw [expr]
  exact .bind h fun v => .bind (appends_settle v) fun _ => .lift _

theorem appends_not {e : Expr} (h : Appends o w (expr call e)) : Appends o w (expr call (.not e)) := by
  rw [expr]
  exact .bind h fun v => .bind (appends_truth v) fun _ => .pure _

theorem appends_binary (op : BinaryOp) {l r : Expr} (hl : Appends o w (expr call l))
    (hr : Appends o w (expr call r)) : Appends o w (expr call (.binary op l r)) := by
  rw [expr]
  refine .bind hl fun a => .bind hr fun b => .ite ?_ ?_
  · exact .bind (appends_existing a) fun _ => .bind (appends_existing b) fun _ => .lift _
  · exact .bind (appends_settle a) fun _ => .bind (appends_settle b) fun _ => .lift _

theorem appends_compare {first : Expr} {rest : List (CompareOp × Expr)} (h : Appends o w (expr call first))
    (hrest : ∀ v, Appends o w (comparisons call v rest)) : Appends o w (expr call (.compare first rest)) := by
  rw [expr]
  exact .bind h hrest

theorem appends_both {l r : Expr} (hl : Appends o w (expr call l)) (hr : Appends o w (expr call r)) :
    Appends o w (expr call (.both l r)) := by
  rw [expr]
  split
  · exact .pure _
  · exact .bind hl fun a => .bind (appends_truth a) fun _ => .ite hr (.pure _)

theorem appends_either {l r : Expr} (hl : Appends o w (expr call l)) (hr : Appends o w (expr call r)) :
    Appends o w (expr call (.either l r)) := by
  rw [expr]
  exact .bind hl fun a => .bind (appends_truth a) fun _ => .ite (.pure _) hr

theorem appends_choose_none {condition yes : Expr} (hcondition : Appends o w (expr call condition))
    (hyes : Appends o w (expr call yes)) : Appends o w (expr call (.choose condition yes none)) := by
  rw [expr]
  exact .bind hcondition fun a => .bind (appends_truth a) fun _ => .ite hyes (.pure _)

theorem appends_choose_some {condition yes no : Expr} (hcondition : Appends o w (expr call condition))
    (hyes : Appends o w (expr call yes)) (hno : Appends o w (expr call no)) :
    Appends o w (expr call (.choose condition yes (some no))) := by
  rw [expr]
  exact .bind hcondition fun a => .bind (appends_truth a) fun _ => .ite hyes hno

theorem appends_filter_none (name : String) {args : List Arg} (hargs : Appends o w (arguments call args)) :
    Appends o w (expr call (.filter name none args)) := by
  rw [expr]
  exact .bind (.pure _) fun v => .bind hargs fun _ => appends_applyFilter _ _ _

theorem appends_filter_some (name : String) {e : Expr} {args : List Arg} (h : Appends o w (expr call e))
    (hargs : Appends o w (arguments call args)) : Appends o w (expr call (.filter name (some e) args)) := by
  rw [expr]
  exact .bind h fun v => .bind hargs fun _ => appends_applyFilter _ _ _

theorem appends_test (name : String) {operand : Expr} {args : List Arg} (h : Appends o w (expr call operand))
    (hargs : Appends o w (arguments call args)) : Appends o w (expr call (.test name operand args)) := by
  rw [expr]
  refine .bind h fun v => .bind (appends_settle v) fun _ => ?_
  exact .bind hargs fun _ => .bind (.mapM appends_settle _) fun _ => .bind (.lift _) fun _ => .pure _

theorem appends_attr (name : String) {e : Expr} (h : Appends o w (expr call e)) :
    Appends o w (expr call (.attr e name)) := by
  rw [expr]
  exact .bind h fun _ => appends_part _ _

theorem appends_item {e index : Expr} (h : Appends o w (expr call e)) (hindex : Appends o w (expr call index)) :
    Appends o w (expr call (.item e index)) := by
  rw [expr]
  exact .bind h fun _ => .bind hindex fun _ => appends_part _ _

theorem appends_slice {e : Expr} {start stop step : Option Expr} (h : Appends o w (expr call e))
    (hstart : Appends o w (optional call start)) (hstop : Appends o w (optional call stop))
    (hstep : Appends o w (optional call step)) : Appends o w (expr call (.slice e start stop step)) := by
  rw [expr]
  refine .bind h fun v => .bind hstart fun _ => .bind hstop fun _ => .bind hstep fun _ => .ite (.throw _) ?_
  exact .bind (appends_settle v) fun _ => .lift _

theorem appends_list {es : List Expr} (h : Appends o w (items call es)) : Appends o w (expr call (.list es)) := by
  rw [expr]
  exact .bind h fun _ => .pure _

theorem appends_dict {es : List (Expr × Expr)} (h : Appends o w (entries call es)) :
    Appends o w (expr call (.dict es)) := by
  rw [expr]
  exact .bind h fun _ => .pure _

theorem appends_optional_none : Appends o w (optional call none) := by
  rw [optional]
  exact .pure _

theorem appends_optional_some {e : Expr} (h : Appends o w (expr call e)) : Appends o w (optional call (some e)) := by
  rw [optional]
  exact .bind h fun _ => .pure _

theorem appends_items_nil : Appends o w (items call []) := by
  rw [items]
  exact .pure _

theorem appends_items_cons {e : Expr} {es : List Expr} (h : Appends o w (expr call e))
    (hes : Appends o w (items call es)) : Appends o w (items call (e :: es)) := by
  rw [items]
  exact .bind h fun _ => .bind hes fun _ => .pure _

theorem appends_entries_nil : Appends o w (entries call []) := by
  rw [entries]
  exact .pure _

theorem appends_entries_cons {k v : Expr} {es : List (Expr × Expr)} (hk : Appends o w (expr call k))
    (hv : Appends o w (expr call v)) (hes : Appends o w (entries call es)) :
    Appends o w (entries call ((k, v) :: es)) := by
  rw [entries]
  exact .bind hk fun _ => .bind hv fun _ => .bind hes fun _ => .pure _

theorem appends_comparisons_nil (left : Value) : Appends o w (comparisons call left []) := by
  rw [comparisons]
  exact .pure _

theorem appends_comparisons_cons (left : Value) (op : CompareOp) {e : Expr} {rest : List (CompareOp × Expr)}
    (h : Appends o w (expr call e)) (hrest : ∀ v, Appends o w (comparisons call v rest)) :
    Appends o w (comparisons call left ((op, e) :: rest)) := by
  rw [comparisons]
  refine .bind h fun right => ?_
  have hcompared : ∀ a, Appends o w (existing right >>= fun b => liftM (Value.compareBy op a b) >>= fun c =>
      if c = true then comparisons call right rest else Pure.pure (Value.bool false)) := fun a =>
    .bind (appends_existing _) fun _ => .bind (.lift _) fun _ => .ite (hrest right) (.pure _)
  exact .ite (.bind (appends_settle _) hcompared) (.bind (appends_existing _) hcompared)

section

variable {e : Expr} {rest : List Arg}

theorem appends_placed_nil : Appends o w (placed call []) := by
  rw [placed]
  exact .pure _

theorem appends_placed_plain (h : Appends o w (expr call e)) (hrest : Appends o w (placed call rest)) :
    Appends o w (placed call (.plain e :: rest)) := by
  rw [placed]
  exact .bind h fun _ => .bind hrest fun _ => .pure _

theorem appends_placed_spread (h : Appends o w (expr call e)) (hrest : Appends o w (placed call rest)) :
    Appends o w (placed call (.spread e :: rest)) := by
  rw [placed]
  exact .bind h fun _ => .bind hrest fun _ => .pure _

theorem appends_placed_keyword {name : String} (hrest : Appends o w (placed call rest)) :
    Appends o w (placed call (.keyword name e :: rest)) := by
  rw [placed]
  · exact hrest
  all_goals simp

theorem appends_placed_spreadKeywords (hrest : Appends o w (placed call rest)) :
    Appends o w (placed call (.spreadKeywords e :: rest)) := by
  rw [placed]
  · exact hrest
  all_goals simp

theorem appends_named_nil : Appends o w (named call []) := by
  rw [named]
  exact .pure _

theorem appends_named_plain (hrest : Appends o w (named call rest)) :
    Appends o w (named call (.plain e :: rest)) := by
  rw [named]
  · exact hrest
  all_goals simp

theorem appends_named_spread (hrest : Appends o w (named call rest)) :
    Appends o w (named call (.spread e :: rest)) := by
  rw [named]
  · exact hrest
  all_goals simp

theorem appends_named_keyword (name : String) (h : Appends o w (expr call e)) (hrest : Appends o w (named call rest)) :
    Appends o w (named call (.keyword name e :: rest)) := by
  rw [named]
  exact .bind h fun _ => .bind hrest fun _ => .pure _

theorem appends_named_spreadKeywords (h : Appends o w (expr call e)) (hrest : Appends o w (named call rest)) :
    Appends o w (named call (.spreadKeywords e :: rest)) := by
  rw [named]
  exact .bind h fun v => .bind (appends_settle v) fun _ => .bind hrest fun _ => .bind (.lift _) fun _ => .pure _

end

theorem appends_arguments_of {args : List Arg} (hplaced : Appends o w (placed call args))
    (hnamed : Appends o w (named call args)) : Appends o w (arguments call args) := by
  rw [arguments]
  refine .bind hplaced fun places => .bind hnamed fun named => .bind (.mapM ?_ _) fun _ => .pure _
  rintro ⟨v, spread⟩
  exact .ite (.bind (appends_settle v) fun _ => .lift _) (.pure _)

variable (hcall : ∀ w c args, Appends o w (call c args))
include hcall

theorem appends_callValue (f : Value) (args : Args) : Appends o w (callValue call f args) := by
  unfold callValue
  split
  · exact hcall _ _ _
  · exact appends_callBuiltin _ _
  · exact .throw _
  · exact .throw _

theorem appends_callMethod (v : Value) (name : String) (args : Args) : Appends o w (callMethod call v name args) := by
  unfold callMethod
  split
  · exact appends_loopMethod _ _ _ _
  · refine .get fun m hm => ?_
    dsimp only [Machine.after]
    split
    · exact appends_callValue hcall _ _
    · exact .throw _
  · split
    · exact appends_callValue hcall _ _
    · exact .throw _

theorem appends_callName (name : String) (args : Args) : Appends o w (callName call name args) := by
  unfold callName
  refine .guard (.ite (.guard (hcall _ _ _)) (.bind (appends_lookup name) fun found => ?_))
  split
  · exact .throw _
  · exact .throw _
  · exact appends_callValue hcall _ _

theorem appends_perform (callee : Expr) {object : Eval Value} {args : Eval Args} (hobject : Appends o w object)
    (hargs : Appends o w args) : Appends o w (perform call callee object args) := by
  unfold perform
  split
  · exact hcall _ _ _
  · exact .bind hargs fun args => appends_callName hcall _ _
  · exact .bind hobject fun v => .bind hargs fun args => appends_callMethod hcall _ _ _
  · exact .bind hobject fun f => .bind hargs fun args => appends_callValue hcall _ _

theorem appends_call {callee : Expr} {args : List Arg} (hobject : Appends o w (match callee with
      | .attr e _ => expr call e
      | f => expr call f)) (hargs : Appends o w (arguments call args)) :
    Appends o w (expr call (.call callee args)) := by
  rw [expr.eq_def]
  exact appends_perform hcall callee hobject hargs

set_option linter.unusedSectionVars false in
mutual

-- `arguments` reads one list twice and takes nothing off it, so it has no case here: what holds of its two readers is
-- put together where it is used.
theorem appends_expr : ∀ e : Expr, Appends o w (expr call e)
  | .const v => appends_const v
  | .name id => appends_name id
  | .neg e => appends_neg (appends_expr e)
  | .not e => appends_not (appends_expr e)
  | .binary op l r => appends_binary op (appends_expr l) (appends_expr r)
  | .compare first rest => appends_compare (appends_expr first) fun v => appends_comparisons v rest
  | .both l r => appends_both (appends_expr l) (appends_expr r)
  | .either l r => appends_either (appends_expr l) (appends_expr r)
  | .choose condition yes none => appends_choose_none (appends_expr condition) (appends_expr yes)
  | .choose condition yes (some no) =>
    appends_choose_some (appends_expr condition) (appends_expr yes) (appends_expr no)
  | .filter name none args =>
    appends_filter_none name (appends_arguments_of (appends_placed args) (appends_named args))
  | .filter name (some e) args =>
    appends_filter_some name (appends_expr e) (appends_arguments_of (appends_placed args) (appends_named args))
  | .test name operand args =>
    appends_test name (appends_expr operand) (appends_arguments_of (appends_placed args) (appends_named args))
  | .attr e name => appends_attr name (appends_expr e)
  | .item e index => appends_item (appends_expr e) (appends_expr index)
  | .slice e start stop step =>
    appends_slice (appends_expr e) (appends_optional start) (appends_optional stop) (appends_optional step)
  | .call callee args => by
    have hcallee := appends_expr callee
    refine appends_call hcall ?_ (appends_arguments_of (appends_placed args) (appends_named args))
    cases callee with
    | attr e name => exact appends_expr e
    | _ => exact hcallee
  | .list es => appends_list (appends_items es)
  | .dict es => appends_dict (appends_entries es)

theorem appends_optional : ∀ e? : Option Expr, Appends o w (optional call e?)
  | none => appends_optional_none
  | some e => appends_optional_some (appends_expr e)

theorem appends_items : ∀ es : List Expr, Appends o w (items call es)
  | [] => appends_items_nil
  | e :: es => appends_items_cons (appends_expr e) (appends_items es)

theorem appends_entries : ∀ es : List (Expr × Expr), Appends o w (entries call es)
  | [] => appends_entries_nil
  | (k, v) :: es => appends_entries_cons (appends_expr k) (appends_expr v) (appends_entries es)

theorem appends_comparisons (left : Value) : ∀ es : List (CompareOp × Expr), Appends o w (comparisons call left es)
  | [] => appends_comparisons_nil left
  | (op, e) :: es => appends_comparisons_cons left op (appends_expr e) fun v => appends_comparisons v es

theorem appends_placed : ∀ args : List Arg, Appends o w (placed call args)
  | [] => appends_placed_nil
  | .plain e :: rest => appends_placed_plain (appends_expr e) (appends_placed rest)
  | .spread e :: rest => appends_placed_spread (appends_expr e) (appends_placed rest)
  | .keyword _ _ :: rest => appends_placed_keyword (appends_placed rest)
  | .spreadKeywords _ :: rest => appends_placed_spreadKeywords (appends_placed rest)

theorem appends_named : ∀ args : List Arg, Appends o w (named call args)
  | [] => appends_named_nil
  | .plain _ :: rest => appends_named_plain (appends_named rest)
  | .spread _ :: rest => appends_named_spread (appends_named rest)
  | .keyword name e :: rest => appends_named_keyword name (appends_expr e) (appends_named rest)
  | .spreadKeywords e :: rest => appends_named_spreadKeywords (appends_expr e) (appends_named rest)

end

theorem appends_arguments (args : List Arg) : Appends o w (arguments call args) :=
  appends_arguments_of (appends_placed hcall args) (appends_named hcall args)

end

/-! ### Statements -/

theorem appends_setPart (path : List String) (v new : Value) : Appends o w (setPart v path new) := by
  induction path generalizing v with
  | nil =>
    rw [setPart]
    exact .throw _
  | cons name rest ih =>
    cases rest with
    | nil =>
      unfold setPart
      split
      · exact .modify (fun _ => rfl) fun _ hm => hm
      · exact .throw _
      · exact .throw _
      · rename_i hnil heq _
        cases heq
        exact absurd rfl hnil
    | cons next rest =>
      rw [setPart]
      · exact .bind (appends_part _ _) fun v => ih v
      all_goals simp

theorem appends_assign (name : String) (v : Value) : Appends o w (assign name v) := by
  refine .modify (fun m => ?_) fun m hm => ?_
  · dsimp only [Machine.after]
    split <;> rfl
  · split <;> exact hm

theorem appends_depth : Appends o w depth := .get fun _ _ => .pure _

theorem appends_running : Appends o w running? := .get fun _ _ => .pure _

theorem appends_write (html : Bool) (s : String) : Appends o (.writing html) (write s) :=
  .modify (fun m => by simp [Machine.after, String.append_assoc]) fun _ hm => ⟨hm.1, fun _ h => (nomatch h)⟩

theorem appends_emit (html : Bool) (v : Value) : Appends o (.writing html) (emit v) :=
  .bind (appends_existing v) fun _ => .get fun _ _ => appends_write _ _

theorem appends_withFrame (f : Frame) {act : Eval α} (h : Appends o w act) : Appends o w (withFrame f act) := by
  unfold withFrame
  exact .bind appends_depth fun _ => .guard (.bind (.modify (fun _ => rfl) fun _ hm => hm) fun _ => .bind h fun _ =>
    .bind (.modify (fun _ => rfl) fun _ hm => hm) fun _ => .pure _)

theorem run_capture (act : Eval Unit) (m : Machine) :
    (capture act).run m =
      (act.run { m with out := "" }).map fun p => (Value.string p.2.out p.2.html, { p.2 with out := m.out }) := by
  change (act.run { m with out := "" }).bind
    (fun p => .ok (Value.string p.2.out p.2.html, { p.2 with out := m.out })) = _
  cases act.run { m with out := "" } <;> rfl

/-- What an action writes where its output is kept apart depends on no output, and is lost to the output around it. -/
theorem appends_capture {act : Eval Unit} (hact : Appends o (.writing w.html) act) : Appends o w (capture act) := by
  intro m hm
  have hknown := (hact { m with out := "" } ⟨hm.1, fun _ h => (nomatch h)⟩).2
  rw [run_capture, run_capture]
  change (act.run { m with out := "" }).map _ = _ ∧ _
  cases hrun : act.run { m with out := "" } with
  | error f => exact ⟨rfl, fun _ hp => (nomatch hp)⟩
  | ok p =>
    refine ⟨rfl, fun q hq => ?_⟩
    cases hq
    exact ⟨(hknown p hrun).1, hm.2⟩

theorem appends_enclose (names : List String) : Appends o w (enclose names) := by
  unfold enclose
  have hloop : ∀ id, Appends o w (forIn names PUnit.unit fun name _ => lookup? name >>= fun v => (do
      modify fun m => { m with
        stores := m.stores.modify id fun vars =>
          if (vars.lookup name).isSome then vars else put name (v.getD .missing) vars }
      return .yield PUnit.unit)) := by
    intro id
    refine .forIn (fun name _ => ?_) _ _
    exact .bind (appends_lookup name) fun _ => .bind (.modify (fun _ => rfl) fun _ hm => hm) fun _ => .pure _
  refine .get fun m hm => ?_
  dsimp only [Machine.after]
  split
  · exact .bind (.pure _) fun id => .bind (hloop id) fun _ => .pure _
  · exact .bind (.set hm) fun _ => .bind (.pure _) fun id => .bind (hloop id) fun _ => .pure _
  · exact .bind (.throw _) fun id => .bind (hloop id) fun _ => .pure _

theorem appends_newMacro (name : String) (signature : Signature) (body : List Stmt) (free : List String) :
    Appends o w (newMacro name signature body free) := by
  unfold newMacro
  exact .bind (appends_enclose _) fun _ => .get fun _ hm => .bind (.set hm) fun _ => .pure _

mutual

theorem appends_store : ∀ (t : Target) (v : Value), Appends o w (store t v)
  | .name id, v => by
    rw [store]
    exact appends_assign _ _
  | .part id path, v => by
    rw [store]
    exact .bind (appends_lookup id) fun _ => appends_setPart _ _ _
  | .tuple ts, v => by
    rw [store]
    refine .bind (appends_settle v) fun v => ?_
    split
    · exact .ite (appends_storeAll ts _) (.throw _)
    · exact .ite (appends_storeAll ts _) (.throw _)
    · exact .ite (appends_storeAll ts _) (.throw _)
    · exact .throw _

theorem appends_storeAll : ∀ (ts : List Target) (vs : List Value), Appends o w (storeAll ts vs)
  | [], vs => by
    rw [storeAll]
    · exact .pure _
    · simp
  | t :: ts, [] => by
    rw [storeAll]
    · exact .pure _
    · simp
  | t :: ts, v :: vs => by
    rw [storeAll]
    exact .bind (appends_store t v) fun _ => appends_storeAll ts vs

end

theorem appends_runLoop {body : Eval Unit} (hbody : Appends o w body) (target : Target)
    (again : Option (Target × List Stmt)) (count : Option Nat) (vs : List Value) :
    Appends o w (runLoop body target again count vs) := by
  have hgo : ∀ id depth previous index vs, Appends o w (runLoop.go body target count id depth previous index vs) := by
    intro id depth previous index vs
    induction vs generalizing previous index with
    | nil => exact .pure _
    | cons v rest ih =>
      rw [runLoop.go]
      exact .bind (appends_assign _ _) fun _ => .bind (appends_store target v) fun _ => .bind hbody fun _ => ih _ _
  unfold runLoop
  refine .bind appends_running fun r => ?_
  dsimp only
  exact .get fun m hm => .bind (.set hm) fun _ => appends_withFrame _ (hgo _ _ _ _ _)

/-- A template that is left out may leave an empty map under a name. -/
theorem appends_bound (id : Option String) : Appends o w (match id with
    | some id => assign id (.map [] false)
    | none => Pure.pure ()) := by
  split
  · exact appends_assign _ _
  · exact .pure _

section

variable {call : Callee → Args → Eval Value} (hcall : ∀ w c args, Appends o w (call c args))
include hcall

theorem appends_filterText (s : Value) (e : Expr) : Appends o w (filterText call s e) := by
  cases e with
  | filter name operand args =>
    have happly : ∀ v, Appends o w (arguments call args >>= applyFilter name v) := fun v =>
      .bind (appends_arguments hcall args) fun _ => appends_applyFilter _ _ _
    cases operand with
    | none =>
      rw [filterText]
      exact .bind (.pure _) happly
    | some e =>
      rw [filterText]
      exact .bind (appends_filterText s e) happly
  | _ => exact appends_expr hcall _

theorem appends_guarded (target : Target) (guard : Expr) (vs : List Value) :
    Appends o w (guarded call target guard vs) := by
  unfold guarded
  refine appends_withFrame _ (.filterM (fun v => ?_) _)
  exact .bind (appends_store target v) fun _ => .bind (appends_expr hcall guard) fun v => appends_truth v

theorem appends_loop {b : Bool} (target : Target) (source : Expr) (guard : Option Expr) (recursive : Bool)
    {body otherwise : List Stmt} (hbody : Appends o (.writing b) (execAll call body))
    (hotherwise : Appends o (.writing b) (execAll call otherwise)) :
    Appends o (.writing b) (exec call (.loop target source guard recursive body otherwise)) := by
  have hrest : ∀ count vs again, Appends o (.writing b) (runLoop (execAll call body) target again count vs >>=
      fun _ => if vs.isEmpty = true then execAll call otherwise else Pure.pure ()) := fun count vs again =>
    .bind (appends_runLoop hbody target again count vs) fun _ => .ite hotherwise (.pure _)
  rw [exec]
  refine .bind (appends_expr hcall source) fun v => .bind (appends_settle v) fun v => .bind (.lift _) fun vs => ?_
  cases guard with
  | none => exact .bind (.pure _) fun p => hrest p.1 p.2 _
  | some g => exact .bind (appends_guarded hcall target g vs) fun vs => .bind (.pure _) fun p => hrest p.1 p.2 _

theorem appends_autoEscape {b : Bool} (e : Expr) {body : List Stmt}
    (hbody : ∀ html, Appends o (.writing html) (execAll call body)) :
    Appends o (.writing b) (exec call (.autoEscape e body)) := by
  rw [exec]
  refine .bind (appends_expr hcall e) fun v => .bind (.lift _) fun html => .get fun m hm => ?_
  -- The inside writes HTML as it is told to, so what is known before it differs from what is known around it.
  have hset : Follows o (.writing b) (.writing html) (modify fun m => { m with html := html })
      (modify fun m => { m with html := html }) := .modify (fun _ => rfl) fun _ h => ⟨rfl, h.2⟩
  exact .bind hset fun _ => .bind (hbody html) fun _ => .modify (fun _ => rfl) fun _ h => ⟨hm.1, h.2⟩

theorem appends_callBlock (b : Bool) (e : Expr) (signature : Signature) (body : List Stmt) :
    Appends o (.writing b) (exec call (.callBlock e signature body)) := by
  rw [exec.eq_def]
  dsimp only
  split
  case h_2 => exact .throw _
  case h_1 callee args =>
    have hobject : Appends o (.writing b) (match callee with
        | .attr e _ => expr call e
        | f => expr call f) := by
      split <;> exact appends_expr hcall _
    refine .bind (appends_perform hcall callee hobject ?_) fun v => appends_emit _ v
    exact .bind (appends_arguments hcall args) fun _ => .bind (appends_newMacro _ _ _ _) fun _ => .pure _

theorem appends_load (b : Bool) (e : Expr) (ignoreMissing : Bool) (id : Option String) :
    Appends o (.writing b) (exec call (.load e ignoreMissing id)) := by
  rw [exec.eq_def]
  dsimp only
  have hchecked : ∀ choices : List Value, Appends o (.writing b) (forIn choices PUnit.unit fun v _ =>
      if v.kind ≠ .string then MonadExcept.throw Fault.invalidOperation >>= fun _ : PUnit =>
        Pure.pure (ForInStep.yield PUnit.unit)
      else Pure.pure (ForInStep.yield PUnit.unit)) := by
    intro choices
    exact .forIn (fun v _ => .guard (.pure _)) _ _
  refine .bind (appends_expr hcall e) fun v => .bind (appends_settle v) fun v => ?_
  split
  · exact .bind (.pure _) fun choices => .bind (hchecked choices) fun _ => .guard (appends_bound id)
  · split
    case h_5 => exact .bind (.throw _) fun choices => .bind (hchecked choices) fun _ => .guard (appends_bound id)
    all_goals exact .bind (.pure _) fun choices => .bind (hchecked choices) fun _ => .guard (appends_bound id)

set_option linter.unusedSectionVars false in
mutual

theorem appends_exec (b : Bool) : ∀ s : Stmt, Appends o (.writing b) (exec call s)
  | .text s => by
    rw [exec]
    exact appends_write _ s
  | .emit e => by
    rw [exec]
    exact .bind (appends_expr hcall e) fun v => appends_emit _ v
  | .loop target source guard recursive body otherwise =>
    appends_loop hcall target source guard recursive (appends_execAll b body) (appends_execAll b otherwise)
  | .branch condition yes no => by
    rw [exec]
    exact .bind (appends_expr hcall condition) fun v => .bind (appends_truth v) fun _ =>
      .ite (appends_execAll b yes) (appends_execAll b no)
  | .bind bindings body => by
    rw [exec]
    refine appends_withFrame _ (.bind (.forIn (fun b _ => ?_) _ _) fun _ => appends_execAll b body)
    exact .bind (appends_expr hcall b.2) fun v => .bind (appends_store b.1 v) fun _ => .pure _
  | .set target e => by
    rw [exec]
    exact .bind (appends_expr hcall e) fun v => appends_store target v
  | .setBlock target none body => by
    rw [exec]
    exact .bind (appends_capture (appends_execAll b body)) fun s => appends_store target s
  | .setBlock target (some f) body => by
    rw [exec]
    refine .bind (appends_capture (appends_execAll b body)) fun s => ?_
    exact .bind (appends_filterText hcall s f) fun v => appends_store target v
  | .autoEscape e body => appends_autoEscape hcall e fun html => appends_execAll html body
  | .filterBlock filter body => by
    rw [exec]
    refine .bind (appends_capture (appends_execAll b body)) fun s => ?_
    exact .bind (appends_filterText hcall s filter) fun v => appends_emit _ v
  | .section name required body => by
    rw [exec]
    exact appends_withFrame _ (.guard (appends_execAll b body))
  | .define name signature body => by
    rw [exec]
    exact .bind (appends_newMacro _ _ _ _) fun _ => appends_assign _ _
  | .callBlock e signature body => appends_callBlock hcall b e signature body
  | .run e => by
    rw [exec]
    exact .bind (appends_expr hcall e) fun _ => .pure _
  | .load e ignoreMissing id => appends_load hcall b e ignoreMissing id
  | .extend e => by
    rw [exec]
    refine .bind (appends_expr hcall e) fun v => ?_
    split <;> exact .throw _

theorem appends_execAll (b : Bool) : ∀ body : List Stmt, Appends o (.writing b) (execAll call body)
  | [] => by
    rw [execAll]
    exact .pure _
  | s :: rest => by
    rw [execAll]
    exact .bind (appends_exec b s) fun _ => appends_execAll b rest

end

theorem appends_fillDefaults (late : List (String × Expr)) : Appends o w (fillDefaults call late) := by
  induction late with
  | nil => exact .pure _
  | cons late rest ih =>
    obtain ⟨p, d⟩ := late
    rw [fillDefaults]
    refine .bind (appends_lookup _) fun found => ?_
    dsimp only
    split
    · exact .bind (appends_expr hcall _) fun v => .bind (appends_assign _ v) fun _ => ih
    · exact ih

end

/-- Calls of macros, sections and loops add to the output and take no look at it, so that the statements around them
do the same. -/
theorem appends_invoke (fuel : Nat) (w : Known) (callee : Callee) (args : Args) :
    Appends o w (invoke fuel callee args) := by
  induction fuel generalizing w callee args with
  | zero => exact .throw _
  | succ fuel ih =>
    match callee with
    | .closure id =>
      rw [invoke]
      refine .get fun m hm => ?_
      dsimp only [Machine.after]
      split
      · exact .throw _
      · refine .bind (.lift _) fun frame => .bind appends_depth fun d => .guard ?_
        refine .bind (.set hm) fun _ => .bind (appends_fillDefaults ih _) fun _ => ?_
        refine .bind (appends_capture (appends_execAll ih _ _)) fun text => ?_
        exact .bind (.modify (fun _ => rfl) fun _ hm => hm) fun _ => .pure _
    | .section name =>
      rw [invoke]
      refine .get fun m hm => ?_
      dsimp only [Machine.after]
      split
      · exact .throw _
      · exact appends_capture (appends_exec ih _ _)
    | .again =>
      rw [invoke]
      refine .bind appends_running fun r => ?_
      split
      · exact .throw _
      · exact .throw _
      · exact .bind (appends_settle _) fun v => .bind (.lift _) fun vs =>
          appends_capture (appends_runLoop (appends_execAll ih _ _) _ _ _ _)

/-- What a template writes comes after what was written before it, and does not depend on it. -/
theorem run_execAll_after (fuel : Nat) (body : List Stmt) (o : String) (m : Machine) :
    (execAll (invoke fuel) body).run (m.after o) =
      ((execAll (invoke fuel) body).run m).map fun p => (p.1, p.2.after o) :=
  (appends_execAll (appends_invoke fuel) m.html body m ⟨rfl, fun _ h => (nomatch h)⟩).1

/-- The value of an expression does not depend on the output. -/
theorem run_expr_after (fuel : Nat) (e : Expr) (o : String) (m : Machine) :
    (expr (invoke fuel) e).run (m.after o) = ((expr (invoke fuel) e).run m).map fun p => (p.1, p.2.after o) :=
  (appends_expr (w := .writing m.html) (appends_invoke fuel) e m ⟨rfl, fun _ h => (nomatch h)⟩).1

/-- An expression writes nothing, and it leaves the writing of HTML as it was. -/
theorem expr_writes_nothing {fuel : Nat} {e : Expr} {m m' : Machine} {v : Value}
    (h : (expr (invoke fuel) e).run m = .ok (v, m')) : m'.out = m.out ∧ m'.html = m.html := by
  have hknown : Known.Of ⟨m.html, some m.out⟩ m := ⟨rfl, fun _ ho => (Option.some.inj ho)⟩
  have hkept := (appends_expr (o := "") (appends_invoke fuel) e m hknown).2 _ h
  exact ⟨hkept.2 _ rfl, hkept.1⟩

end Eval

end Casebook.Template
