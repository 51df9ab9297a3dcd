import Casebook.Template.Constant
import Casebook.Template.FreeNames
import Casebook.Template.Function
import Casebook.Template.Machine
import Casebook.Template.Reader

/-! Evaluating expressions and templates.  Names that do not exist may be passed around and tested, but printing,
comparing, computing with or deciding by them is a fault.

Expressions and statements are evaluated by recursion on their structure.  Calls of macros, of sections and of `loop`
are the only way back to a larger statement; they go through the parameter `call`, whose nesting is bounded. -/
namespace Casebook.Template

/-- What the parameter `call` may start. -/
inductive Callee where
  | closure (id : Nat)
  | section (name : String)
  /-- The innermost running loop. -/
  | again
deriving DecidableEq

namespace Eval

def callBuiltin (name : String) (args : Args) : Eval Value := do
  let args ← args.mapM settle
  match name with
  | "range" => liftM (Value.rangeOf args)
  | "dict" => liftM (Value.dictOf args)
  | "debug" => return .text (Value.debugText args)
  | _ => newRecord args

/-- A method of a running loop. -/
def loopMethod (id index : Nat) (name : String) (args : Args) : Eval Value := do
  match name with
  | "cycle" =>
    match args[index % args.length]? with
    | some v => return v
    | none => throw .invalidOperation
  | "changed" =>
    let args ← args.mapM settle
    let m ← get
    let same := (m.watched.lookup id).any fun before => Value.equalItems before args
    set { m with watched := (id, args) :: m.watched }
    return .bool !same
  | _ => throw .unknownMethod

/-- The place that an expression leads to: a name, and the keys of parts within its value, innermost first. -/
def place? : Expr → Option (String × List Value)
  | .name id => some (id, [])
  | .attr e name => (place? e).map fun (id, keys) => (id, .text name :: keys)
  | .item e (.const key) => (place? e).map fun (id, keys) => (id, key :: keys)
  | _ => none

/-- Whether an expression and a lone argument lead to the same place. -/
def leadToOnePlace (e : Expr) (args : List Arg) : Bool :=
  match place? e, args with
  | some (a, ks), [.plain f] => (place? f).any fun (b, ls) => a == b && Value.equalItems ks ls
  | _, _ => false

/-- Whether a value is told apart from others by its place, not by what it holds. -/
def isObject (v : Value) : Bool :=
  match v.kind with
  | .sequence | .map | .iterator | .plain => true
  | _ => false

/-- The section of the template that a callee names by `self`. -/
def sectionOf? : Expr → Option String
  | .attr (.name id) name => if id = "self" then some name else none
  | _ => none

/-- Applies a filter. -/
def applyFilter (name : String) (v : Value) (args : Args) : Eval Value := do
  let v ← settle v
  let args ← args.mapM settle
  liftM (Value.filter (← get).html (args.length + 1) name v args)

/-- The value of a spread map. -/
def spreadPairs : Value → Except Fault Named
  | .undefined _ => .error .undefinedValue
  | v => Value.pairs v

section

variable (call : Callee → Args → Eval Value)

/-- Calls a value. -/
def callValue (f : Value) (args : Args) : Eval Value :=
  match f with
  | .closure id .. => call (.closure id) args
  | .builtin name => callBuiltin name args
  | .loop .. => throw .unknownFunction
  | _ => throw .invalidOperation

/-- Calls a method of a value. -/
def callMethod (v : Value) (name : String) (args : Args) : Eval Value := do
  match v with
  | .loop id index .. => loopMethod id index name args
  | .record id =>
    match Value.find? (.text name) ((← get).records[id]?.getD []) with
    | some f => callValue call f args
    | none => throw .unknownMethod
  | _ =>
    match v.attr? name with
    | some f => callValue call f args
    | none => throw .unknownMethod

/-- Calls what a name stands for. -/
def callName (name : String) (args : Args) : Eval Value := do
  if name = "super" then throw .invalidOperation
  if name = "loop" then
    if args.length ≠ 1 then throw .invalidOperation
    call .again args
  else match ← lookup? name with
    | none | some (.undefined _) => throw .unknownFunction
    | some f => callValue call f args

/-- Calls what an expression stands for: a section, a name, a method of an object or a value.  A section looks at no
arguments. -/
def perform (callee : Expr) (object : Eval Value) (args : Eval Args) : Eval Value := do
  match sectionOf? callee, callee with
  | some name, _ => call (.section name) []
  | none, .name id => callName call id (← args)
  | none, .attr _ name =>
    let v ← object
    callMethod call v name (← args)
  | none, _ =>
    let f ← object
    callValue call f (← args)

mutual

def expr : Expr → Eval Value
  | .const v => return v
  | .name id => do return (← lookup? id).getD .missing
  | .neg e => do liftM (Value.neg (← settle (← expr e)))
  | .not e => do return .bool !(← truth (← expr e))
  | .binary op l r => do
    let a ← expr l
    let b ← expr r
    if op = .concat then liftM (Value.binary op (← existing a) (← existing b))
    else liftM (Value.binary op (← settle a) (← settle b))
  | .compare first rest => do comparisons (← expr first) rest
  | .both l r => do
    match (Expr.both l r).constant? with
    | some v => return v
    | none =>
      let a ← expr l
      if ← truth a then expr r else return a
  | .either l r => do
    let a ← expr l
    if ← truth a then return a else expr r
  | .choose condition yes no => do
    if ← truth (← expr condition) then expr yes
    else match no with
      | some e => expr e
      | none => return .undefined true
  | .filter name operand args => do
    let v ← match operand with
      | some e => expr e
      | none => pure .missing
    applyFilter name v (← arguments args)
  | .test name operand args => do
    let v ← settle (← expr operand)
    let values ← (← arguments args).mapM settle
    let passed ← liftM (Value.test name v values)
    return .bool (passed && (name != "sameas" || !isObject v || leadToOnePlace operand args))
  | .attr e name => do part (← expr e) (.text name)
  | .item e index => do
    let v ← expr e
    let i ← expr index
    part v i
  | .slice e start stop step => do
    let v ← expr e
    let s ← optional start
    let t ← optional stop
    let k ← optional step
    if v.isUndefined then throw .undefinedValue
    liftM (Value.slice (← settle v) s t k)
  | .call callee args =>
    let object := match callee with
      | .attr e _ => expr e
      | f => expr f
    perform call callee object (arguments args)
  | .list es => do return .list (← items es)
  | .dict es => do return Value.ofEntries (← entries es)

def optional : Option Expr → Eval (Option Value)
  | none => return none
  | some e => do return some (← expr e)

def items : List Expr → Eval (List Value)
  | [] => return []
  | e :: es => do
    let v ← expr e
    return v :: (← items es)

def entries : List (Expr × Expr) → Eval (List (Value × Value))
  | [] => return []
  | (k, v) :: es => do
    let key ← expr k
    let value ← expr v
    return (key, value) :: (← entries es)

/-- Compares neighbours up to the first comparison that fails. -/
def comparisons : Value → List (CompareOp × Expr) → Eval Value
  | _, [] => return .bool true
  | left, (op, e) :: rest => do
    let right ← expr e
    let a ← if op == .isIn || op == .notIn then settle left else existing left
    if ← liftM (Value.compareBy op a (← existing right)) then comparisons right rest
    else return .bool false

/-- The arguments of a call: those by place first, then all by name, of which the last of a name counts. -/
def arguments (args : List Arg) : Eval Args := do
  let places ← placed args
  let named ← named args
  let plain ← places.mapM fun (v, spread) => if spread then do liftM (Value.walk (← settle v)) else pure [v]
  return plain.flatten ++ (named.map fun es => Value.map (Value.sortEntries es) true).toList

/-- The arguments by place, and whether they are spread. -/
def placed : List Arg → Eval (List (Value × Bool))
  | [] => return []
  | .plain e :: rest => do
    let v ← expr e
    return (v, false) :: (← placed rest)
  | .spread e :: rest => do
    let v ← expr e
    return (v, true) :: (← placed rest)
  | _ :: rest => placed rest

/-- The arguments by name, if there are any or a map is spread. -/
def named : List Arg → Eval (Option Named)
  | [] => return none
  | .keyword name e :: rest => do
    let v ← expr e
    return some ((.text name, v) :: ((← named rest).getD []))
  | .spreadKeywords e :: rest => do
    let v ← settle (← expr e)
    let more ← named rest
    return some ((← liftM (spreadPairs v)) ++ more.getD [])
  | _ :: rest => named rest

end

mutual

/-- Gives a value to a target; several targets take a sequence or map of their number. -/
def store : Target → Value → Eval Unit
  | .name id, v => assign id v
  | .part id path, v => do setPart ((← lookup? id).getD .missing) path v
  | .tuple ts, v => do
    let v ← settle v
    match v.kind, v.walk with
    | .sequence, .ok vs | .iterator, .ok vs | .map, .ok vs =>
      if vs.length = ts.length then storeAll ts vs else throw .cannotUnpack
    | _, _ => throw .cannotUnpack

def storeAll : List Target → List Value → Eval Unit
  | t :: ts, v :: vs => do
    store t v
    storeAll ts vs
  | _, _ => return ()

end

/-- The filter expression of a block, applied to the text of the block. -/
def filterText (s : Value) : Expr → Eval Value
  | .filter name operand args => do
    let v ← match operand with
      | some e => filterText s e
      | none => pure s
    applyFilter name v (← arguments call args)
  | e => expr call e

/-- The members of a loop that pass its guard. -/
def guarded (target : Target) (guard : Expr) (vs : List Value) : Eval (List Value) :=
  withFrame { loop := some ⟨0, none⟩ } (vs.filterM fun v => do
    store target v
    truth (← expr call guard))

/-- Runs a loop over members, with the loop's own state under the name `loop`. -/
def runLoop (body : Eval Unit) (target : Target) (again : Option (Target × List Stmt)) (count : Option Nat)
    (vs : List Value) : Eval Unit := do
  let depth := match ← running? with
    | some { depth, again := some _ } => depth + 1
    | _ => 0
  let m ← get
  let id := m.loops
  set { m with loops := id + 1 }
  withFrame { loop := some ⟨depth, again⟩ } (go id depth .missing 0 vs)
where
  go (id depth : Nat) (previous : Value) : Nat → List Value → Eval Unit
    | _, [] => return ()
    | index, v :: rest => do
      assign "loop" (.loop id index count depth previous (rest.headD .missing))
      store target v
      body
      go id depth v (index + 1) rest

mutual

def exec : Stmt → Eval Unit
  | .text s => write s
  | .emit e => do emit (← expr call e)
  | .loop target source guard recursive body otherwise => do
    let v ← settle (← expr call source)
    let vs ← liftM v.iterate
    let (count, vs) ← match guard with
      | some g => do
        let vs ← guarded call target g vs
        pure (some vs.length, vs)
      | none => pure (v.size?, vs)
    runLoop (execAll body) target (if recursive then some (target, body) else none) count vs
    if vs.isEmpty then execAll otherwise
  | .branch condition yes no => do
    if ← truth (← expr call condition) then execAll yes else execAll no
  | .bind bindings body => withFrame {} do
    for (t, e) in bindings do store t (← expr call e)
    execAll body
  | .set target e => do store target (← expr call e)
  | .setBlock target filter body => do
    let s ← capture (execAll body)
    match filter with
    | none => store target s
    | some f => store target (← filterText call s f)
  | .autoEscape e body => do
    let html ← liftM (htmlMode (← expr call e))
    let before := (← get).html
    modify fun m => { m with html := html }
    execAll body
    modify fun m => { m with html := before }
  | .filterBlock filter body => do
    let s ← capture (execAll body)
    emit (← filterText call s filter)
  | .section _ required body => withFrame {} do
    if required then throw .invalidOperation
    execAll body
  | .define name signature body => do
    assign name (← newMacro name signature body (signature.free body))
  | .callBlock e signature body =>
    match e with
    | .call callee args =>
      let object := match callee with
        | .attr e _ => expr call e
        | f => expr call f
      let withCaller : Eval Args := do
        let args ← arguments call args
        return args.add "caller" (← newMacro "caller" signature body (signature.free body))
      do emit (← perform call callee object withCaller)
    | _ => throw .invalidOperation
  | .run e => do
    let _ ← expr call e
    return ()
  | .load e ignoreMissing id => do
    let choices ← match ← settle (← expr call e) with
      | .string s safe => pure [.string s safe]
      | v => match v.kind, v.walk with
        | .sequence, .ok vs | .iterator, .ok vs | .map, .ok vs => pure vs
        | .plain, _ => pure []
        | _, _ => throw .invalidOperation
    for v in choices do
      if v.kind ≠ .string then throw .invalidOperation
    if !choices.isEmpty && !ignoreMissing then throw .templateNotFound
    match id with
    | some id => assign id (.map [] false)
    | none => return ()
  | .extend e => do
    match ← expr call e with
    | .string .. => throw .templateNotFound
    | _ => throw .invalidOperation

def execAll : List Stmt → Eval Unit
  | [] => return ()
  | s :: rest => do
    exec s
    execAll rest

end

end

/-- The parameters of a macro in order, taken from the arguments by place and then from those by name. -/
def parameters (named : Named) : List String → Args → Except Fault (List (String × Value))
  | [], [] => .ok []
  | [], _ => .error .tooManyArguments
  | p :: ps, [] => do return (p, (named.get? p).getD .missing) :: (← parameters named ps [])
  | p :: ps, v :: vs =>
    if (named.get? p).isSome then .error .tooManyArguments
    else do return (p, v) :: (← parameters named ps vs)

/-- What a macro knows at its start. -/
def frameOf (c : Closure) (args : Args) : Except Fault Frame := do
  let (plain, named) := args.split
  let vars ← parameters named c.signature.params plain
  let caller := if c.usesCaller then [("caller", (named.get? "caller").getD .missing)] else []
  named.only (c.signature.params ++ caller.map Prod.fst)
  return { vars := vars ++ caller, enclosed := some c.store }

/-- Defaults for the parameters that were not given, each evaluated where the earlier ones are known. -/
def fillDefaults (call : Callee → Args → Eval Value) : List (String × Expr) → Eval Unit
  | [] => return ()
  | (p, d) :: rest => do
    match ← lookup? p with
    | some (.undefined _) => assign p (← expr call d)
    | _ => pure ()
    fillDefaults call rest

/-- Calls a macro or a section, or starts the innermost loop again if it is recursive. -/
def invoke : Nat → Callee → Args → Eval Value
  | 0, _, _ => throw .invalidOperation
  | fuel + 1, .closure id, args => do
    let m ← get
    match m.closures[id]? with
    | none => throw .invalidOperation
    | some c =>
      let frame ← liftM (frameOf c args)
      let outer := (← depth) + macroDepth
      if maxDepth < outer + 1 then throw .invalidOperation
      set { m with frames := [frame], outer := outer, sections := [] }
      let params := c.signature.params
      let late := params.drop (params.length - c.signature.defaults.length)
      fillDefaults (invoke fuel) (late.zip c.signature.defaults)
      let text ← capture (execAll (invoke fuel) c.body)
      modify fun now => { now with frames := m.frames, outer := m.outer, sections := m.sections }
      return text
  | fuel + 1, .section name, _ => do
    match (← get).sections.find? fun s => s.name == name with
    | none => throw .unknownBlock
    | some s => capture (exec (invoke fuel) (.section s.name s.required s.body))
  | fuel + 1, .again, args => do
    match ← running? with
    | none => throw .unknownFunction
    | some { again := none, .. } => throw .invalidOperation
    | some { again := some (target, body), .. } =>
      let v ← settle (args.headD .missing)
      let vs ← liftM v.iterate
      capture (runLoop (execAll (invoke fuel) body) target (some (target, body)) v.size? vs)

/-- Every call makes the frames nest deeper, so calls nest no deeper than frames. -/
def maxCalls : Nat := maxDepth + 2

end Eval

namespace Stmt

mutual

/-- The sections inside a statement. -/
def sections : Stmt → List Section
  | .loop _ _ _ _ body otherwise => sectionsAll body ++ sectionsAll otherwise
  | .branch _ yes no => sectionsAll yes ++ sectionsAll no
  | .bind _ body => sectionsAll body
  | .setBlock _ _ body => sectionsAll body
  | .autoEscape _ body => sectionsAll body
  | .filterBlock _ body => sectionsAll body
  | .section name required body => ⟨name, required, body⟩ :: sectionsAll body
  | _ => []

def sectionsAll : List Stmt → List Section
  | [] => []
  | s :: rest => sections s ++ sectionsAll rest

end

end Stmt

/-- A machine that knows some names and the sections of a template. -/
def Machine.start (context : List (String × Value)) (body : List Stmt) : Machine :=
  { frames := [{ vars := context }], outer := 0, closures := [], stores := [], records := [], watched := [], loops := 0,
    sections := Stmt.sectionsAll body, out := "", html := false }

/-- The text that a template stands for where some names are known. -/
def render (text : String) (context : List (String × Value)) : Except Fault String := do
  let body ← readTemplate text
  let (_, m) ← (Eval.execAll (Eval.invoke Eval.maxCalls) body).run (Machine.start context body)
  return m.out

/-- The value of an expression where some names are known. -/
def evaluate (text : String) (context : List (String × Value)) : Except Fault Value := do
  let e ← readExpression text
  let act : Eval Value := do Eval.settle (← Eval.expr (Eval.invoke Eval.maxCalls) e)
  act.run' (Machine.start context [])

end Casebook.Template
