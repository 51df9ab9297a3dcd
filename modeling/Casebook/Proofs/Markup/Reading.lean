import Casebook.Markup.XPath
import Casebook.Proofs.Fallible
import Casebook.Proofs.Text

/-! How the text of a path is cut into steps and conditions, and what is read where a text goes on. -/
namespace Casebook.Markup.XPath

/-! ### Where a step ends -/

/-- The open brackets and the open quote after one more character of a step, unless the character ends the step. -/
def scanChar : Nat × Option Char → Char → Option (Nat × Option Char)
  | (depth, some q), c => some (depth, if c = q then none else some q)
  | (depth, none), c =>
    if c = '\'' ∨ c = '"' then some (depth, some c)
    else if c = '[' then some (depth + 1, none)
    else if c = ']' then some (depth - 1, none)
    else if c = '/' ∧ depth = 0 then none
    else some (depth, none)

/-- The open brackets and the open quote after a text in which no step ends. -/
def scan (state : Nat × Option Char) (cs : List Char) : Option (Nat × Option Char) := cs.foldlM scanChar state

section Scan

variable {state next : Nat × Option Char} {cs : List Char}

theorem scan_cons {c : Char} (h : scanChar state c = some next) (cs : List Char) :
    scan state (c :: cs) = scan next cs := by
  rw [scan, List.foldlM_cons, h]
  rfl

theorem splitStep_cons (state : Nat × Option Char) (c : Char) (rest : List Char) :
    splitStep state.1 state.2 (c :: rest) =
      match scanChar state c with
      | none => ([], c :: rest)
      | some next => (c :: (splitStep next.1 next.2 rest).1, (splitStep next.1 next.2 rest).2) := by
  obtain ⟨depth, _ | q⟩ := state
  · simp only [splitStep, scanChar]
    split_ifs <;> rfl
  · rfl

theorem splitStep_append (h : scan state cs = some next) (t : List Char) :
    splitStep state.1 state.2 (cs ++ t) =
      (cs ++ (splitStep next.1 next.2 t).1, (splitStep next.1 next.2 t).2) := by
  induction cs generalizing state with
  | nil =>
    cases h
    rfl
  | cons c cs ih =>
    rw [scan, List.foldlM_cons, Option.bind_eq_bind, Option.bind_eq_some_iff] at h
    obtain ⟨state', hc, hcs⟩ := h
    rw [List.cons_append, splitStep_cons, hc]
    simp only [ih hcs, List.cons_append]

/-- Whether a step ends in front of a text: where the text is over, or at a slash outside of brackets and quotes. -/
def EndsStep (state : Nat × Option Char) (tail : List Char) : Prop :=
  tail = [] ∨ state = (0, none) ∧ ∃ rest, tail = '/' :: rest

theorem splitStep_eq {tail : List Char} (h : scan state cs = some next) (htail : EndsStep next tail) :
    splitStep state.1 state.2 (cs ++ tail) = (cs, tail) := by
  rw [splitStep_append h]
  rcases htail with rfl | ⟨rfl, rest, rfl⟩ <;> simp [splitStep]

theorem exists_endsStep (state : Nat × Option Char) (cs : List Char) :
    ∃ raw tail next, cs = raw ++ tail ∧ scan state raw = some next ∧ EndsStep next tail := by
  induction cs generalizing state with
  | nil => exact ⟨[], [], state, rfl, rfl, .inl rfl⟩
  | cons c cs ih =>
    cases hc : scanChar state c with
    | some state' =>
      obtain ⟨raw, tail, next, rfl, hraw, htail⟩ := ih state'
      exact ⟨c :: raw, tail, next, rfl, (scan_cons hc raw).trans hraw, htail⟩
    | none =>
      refine ⟨[], c :: cs, state, rfl, rfl, .inr ?_⟩
      obtain ⟨depth, _ | q⟩ := state
      · simp only [scanChar] at hc
        split_ifs at hc with _ _ _ hslash
        obtain ⟨rfl, rfl⟩ := hslash
        exact ⟨rfl, cs, rfl⟩
      · cases hc

theorem scan_of_notMem (h : '/' ∉ cs) (state : Nat × Option Char) : ∃ next, scan state cs = some next := by
  obtain ⟨raw, tail, next, rfl, hraw, rfl | ⟨-, rest, rfl⟩⟩ := exists_endsStep state cs
  · exact ⟨next, by rw [List.append_nil, hraw]⟩
  · simp at h

/-- Of a text that does not start with a slash, the first step is not empty. -/
theorem exists_first_step {c : Char} (hc : c ≠ '/') (rest : List Char) :
    ∃ raw tail next, rest = raw ++ tail ∧ scan (0, none) (c :: raw) = some next ∧ EndsStep next tail := by
  obtain ⟨raw, tail, next, hcut, hraw, htail⟩ := exists_endsStep (0, none) (c :: rest)
  obtain _ | ⟨d, raw⟩ := raw
  · rcases htail with rfl | ⟨-, more, rfl⟩
    · cases hcut
    · exact absurd (List.cons.inj hcut).1 hc
  · obtain ⟨rfl, rfl⟩ := List.cons.inj hcut
    exact ⟨raw, tail, next, rfl, hraw, htail⟩

end Scan

/-- Whether no quote is open but inside of brackets. -/
def Sheltered (state : Nat × Option Char) : Prop := state.2 = none ∨ 0 < state.1

/-- Not a quote, a bracket or a slash. -/
def IsPlain (c : Char) : Prop := c ≠ '\'' ∧ c ≠ '"' ∧ c ≠ '[' ∧ c ≠ ']' ∧ c ≠ '/'

section Sheltered

variable {state : Nat × Option Char} {cs : List Char}

theorem scan_append (state : Nat × Option Char) (cs cs' : List Char) :
    scan state (cs ++ cs') = (scan state cs).bind (scan · cs') := List.foldlM_append

/-- In brackets no step ends, and up to the next closing bracket they stay open. -/
theorem scan_inside (h : 0 < state.1) (hcs : ']' ∉ cs) : ∃ next, scan state cs = some next ∧ 0 < next.1 := by
  induction cs generalizing state with
  | nil => exact ⟨state, rfl, h⟩
  | cons c cs ih =>
    obtain ⟨hc, hcs⟩ := not_or.mp (mt List.mem_cons.mpr hcs)
    have hnext : ∃ next, scanChar state c = some next ∧ 0 < next.1 := by
      obtain ⟨depth, _ | q⟩ := state
      · simp only [scanChar, if_neg (Ne.symm hc)]
        split_ifs with hquote hopen hslash
        · exact ⟨_, rfl, h⟩
        · exact ⟨_, rfl, Nat.succ_pos _⟩
        · exact absurd hslash.2 (Nat.ne_of_gt h)
        · exact ⟨_, rfl, h⟩
      · exact ⟨_, rfl, h⟩
    obtain ⟨next, hc, hnext⟩ := hnext
    rw [scan_cons hc]
    exact ih hnext hcs

theorem Sheltered.pos (h : Sheltered state) (hne : state ≠ (0, none)) : 0 < state.1 := by
  obtain ⟨depth, quote⟩ := state
  rcases h with hquote | hdepth
  · cases hquote
    exact Nat.pos_of_ne_zero fun hzero => hne (congrArg (·, none) hzero)
  · exact hdepth

theorem scanChar_open (h : Sheltered state) : ∃ next, scanChar state '[' = some next ∧ 0 < next.1 := by
  obtain ⟨depth, _ | q⟩ := state
  · exact ⟨_, rfl, Nat.succ_pos _⟩
  · exact ⟨_, rfl, h.resolve_left (Option.some_ne_none q)⟩

theorem scanChar_close (h : 0 < state.1) : ∃ next, scanChar state ']' = some next ∧ Sheltered next := by
  obtain ⟨depth, _ | q⟩ := state
  · exact ⟨_, rfl, .inl rfl⟩
  · exact ⟨_, rfl, .inr h⟩

theorem scanChar_plain {c : Char} (hc : IsPlain c) (depth : Nat) : scanChar (depth, none) c = some (depth, none) := by
  obtain ⟨hsingle, hdouble, hopen, hclose, hslash⟩ := hc
  simp [scanChar, hsingle, hdouble, hopen, hclose, hslash]

theorem scan_plain (hcs : ∀ c ∈ cs, IsPlain c) (depth : Nat) : scan (depth, none) cs = some (depth, none) := by
  induction cs with
  | nil => rfl
  | cons c cs ih =>
    rw [scan_cons (scanChar_plain (hcs c List.mem_cons_self) depth)]
    exact ih fun c hc => hcs c (List.mem_cons_of_mem _ hc)

theorem scan_sheltered (h : Sheltered state) (hcs : ∀ c ∈ cs, IsPlain c) :
    ∃ next, scan state cs = some next ∧ Sheltered next := by
  obtain ⟨depth, quote⟩ := state
  rcases h with hquote | hdepth
  · cases hquote
    exact ⟨_, scan_plain hcs depth, .inl rfl⟩
  · obtain ⟨next, hnext, hpos⟩ := scan_inside hdepth fun hmem => (hcs _ hmem).2.2.2.1 rfl
    exact ⟨next, hnext, .inr hpos⟩

end Sheltered

/-! ### Steps one after the other -/

section Steps

variable {deep : Bool} {cs : List Char}

theorem stepsFrom_succ {c : Char} {rest : List Char} (hc : c ≠ '/') (fuel : Nat) (deep : Bool) :
    stepsFrom (fuel + 1) deep (c :: rest) = do
      let s ← step? deep (splitStep 0 none (c :: rest)).1
      return s :: (← stepsFrom fuel false (splitStep 0 none (c :: rest)).2) := by
  rw [stepsFrom.eq_def]
  simp [hc]

/-- The bound on the number of steps does not matter where it exceeds the length of the text. -/
theorem stepsFrom_congr {fuel fuel' : Nat} (h : cs.length < fuel) (h' : cs.length < fuel') (deep : Bool) :
    stepsFrom fuel deep cs = stepsFrom fuel' deep cs := by
  induction fuel generalizing fuel' cs deep with
  | zero => omega
  | succ fuel ih =>
    obtain _ | fuel' := fuel'
    · omega
    have hrest : ∀ {tail : List Char} (deep : Bool), tail.length < cs.length →
        stepsFrom fuel deep tail = stepsFrom fuel' deep tail := fun deep hlt => ih (by omega) (by omega) deep
    rcases cs with _ | ⟨c, cs⟩
    · rfl
    by_cases hc : c = '/'
    · subst hc
      rcases cs with _ | ⟨d, cs⟩
      · exact hrest deep (by simp)
      · by_cases hd : d = '/'
        · subst hd
          exact hrest true (by simp)
        · rw [stepsFrom.eq_4 _ _ _ (by simpa using hd), stepsFrom.eq_4 _ _ _ (by simpa using hd)]
          exact hrest deep (by simp)
    · obtain ⟨raw, tail, next, rfl, hraw, htail⟩ := exists_first_step hc cs
      have hsplit : splitStep 0 none (c :: (raw ++ tail)) = (c :: raw, tail) := splitStep_eq hraw htail
      rw [stepsFrom_succ hc, stepsFrom_succ hc, hsplit, hrest false (by simp)]

/-- The steps of a text. -/
def steps? (deep : Bool) (cs : List Char) : Except Fault (List Step) := stepsFrom (cs.length + 1) deep cs

theorem stepsFrom_eq {fuel : Nat} (h : cs.length < fuel) (deep : Bool) : stepsFrom fuel deep cs = steps? deep cs :=
  stepsFrom_congr h (Nat.lt_succ_self _) deep

theorem steps?_slashes (deep : Bool) (cs : List Char) : steps? deep ('/' :: '/' :: cs) = steps? true cs :=
  stepsFrom_eq (by simp) true

theorem steps?_slash (deep : Bool) {c : Char} (hc : c ≠ '/') (rest : List Char) :
    steps? deep ('/' :: c :: rest) = steps? deep (c :: rest) := by
  rw [steps?, stepsFrom.eq_4 _ _ _ (by simpa using hc)]
  exact stepsFrom_eq (by simp) deep

/-- The first step is read on its own, the other ones from the slash behind it on. -/
theorem steps?_append {raw tail : List Char} {next : Nat × Option Char} (deep : Bool) (hne : raw ≠ [])
    (hraw : scan (0, none) raw = some next) (htail : EndsStep next tail) :
    steps? deep (raw ++ tail) = do
      let s ← step? deep raw
      return s :: (← steps? false tail) := by
  have hsplit := splitStep_eq hraw htail
  obtain ⟨c, raw, rfl⟩ := List.exists_cons_of_ne_nil hne
  have hc : c ≠ '/' := by
    rintro rfl
    cases hraw
  rw [List.cons_append] at hsplit ⊢
  rw [steps?, stepsFrom_succ hc, hsplit, stepsFrom_eq (by simp)]

/-- A text in which no step ends is the start of the first step. -/
theorem exists_steps?_append {raw : List Char} {next : Nat × Option Char} (deep : Bool) (hne : raw ≠ [])
    (hraw : scan (0, none) raw = some next) (t : List Char) :
    ∃ more tail, t = more ++ tail ∧ steps? deep (raw ++ t) = do
      let s ← step? deep (raw ++ more)
      return s :: (← steps? false tail) := by
  obtain ⟨more, tail, next', rfl, hmore, htail⟩ := exists_endsStep next t
  have hscan : scan (0, none) (raw ++ more) = some next' := by
    rw [scan, List.foldlM_append, ← scan, hraw]
    exact hmore
  refine ⟨more, tail, rfl, ?_⟩
  rw [← List.append_assoc]
  exact steps?_append deep (List.append_ne_nil_of_left_ne_nil hne more) hscan htail

/-- Slashes in front of a step are passed over. -/
theorem exists_behind_slash (deep : Bool) {rest : List Char} (hend : ('/' :: rest).getLast? ≠ some '/') :
    ∃ deep' cs, cs ≠ [] ∧ cs <:+ rest ∧ ∀ t, steps? deep ('/' :: rest ++ t) = steps? deep' (cs ++ t) := by
  obtain _ | ⟨c, rest⟩ := rest
  · exact absurd rfl hend
  by_cases hc : c = '/'
  · subst hc
    obtain _ | ⟨c, rest⟩ := rest
    · exact absurd rfl hend
    · exact ⟨true, c :: rest, List.cons_ne_nil _ _, List.suffix_cons _ _, fun t => steps?_slashes deep _⟩
  · exact ⟨deep, c :: rest, List.cons_ne_nil _ _, List.suffix_rfl, fun t => steps?_slash deep hc _⟩

/-- Where a text goes on behind its last step, the last step is read anew and the others are read as they were. -/
theorem exists_last_step {steps : List Step} (h : steps? deep cs = .ok steps) (hne : cs ≠ [])
    (hend : cs.getLast? ≠ some '/') :
    ∃ before s deep' raw, steps = before ++ [s] ∧ step? deep' raw = .ok s ∧
      ∀ t, steps? deep (cs ++ t) = (steps? deep' (raw ++ t)).map (before ++ ·) := by
  -- on the length of the text: slashes and steps in front are taken off until only the last step is left
  induction hsize : cs.length using Nat.strongRecOn generalizing cs deep steps with
  | ind n ih =>
    have hlast : ∀ {cs'}, cs' ≠ [] → cs' <:+ cs → cs'.getLast? ≠ some '/' := by
      rintro cs' hne' ⟨front, rfl⟩
      rwa [List.getLast?_append_of_ne_nil _ hne'] at hend
    obtain ⟨c, rest, rfl⟩ := List.exists_cons_of_ne_nil hne
    by_cases hc : c = '/'
    · subst hc
      obtain ⟨deep', cs, hcs, hsuffix, hslash⟩ := exists_behind_slash deep hend
      have hread := hslash []
      rw [List.append_nil, List.append_nil, h] at hread
      have hsize' := hsuffix.length_le
      obtain ⟨before, s, deep', raw, hsteps, hs, ht⟩ :=
        ih _ (by simp at hsize; omega) hread.symm hcs (hlast hcs (hsuffix.trans (List.suffix_cons _ _))) rfl
      exact ⟨before, s, deep', raw, hsteps, hs, fun t => (hslash t).trans (ht t)⟩
    · obtain ⟨raw, tail, next, rfl, hscan, htail⟩ := exists_first_step hc rest
      have hfirst : ∀ tail, EndsStep next tail → steps? deep (c :: (raw ++ tail)) = do
          let s ← step? deep (c :: raw)
          return s :: (← steps? false tail) := fun tail => steps?_append deep (List.cons_ne_nil c raw) hscan
      rw [hfirst tail htail] at h
      obtain ⟨s, hs, h⟩ := bind_eq_ok.mp h
      obtain ⟨more, hmore, h⟩ := bind_eq_ok.mp h
      cases h
      rcases htail with rfl | ⟨rfl, rest, rfl⟩
      · cases hmore
        refine ⟨[], s, deep, c :: raw, rfl, hs, fun t => ?_⟩
        rw [List.append_nil]
        cases steps? deep (c :: raw ++ t) <;> rfl
      · have hend' : ('/' :: rest).getLast? ≠ some '/' := hlast (List.cons_ne_nil _ _) ⟨c :: raw, rfl⟩
        obtain ⟨before, s', deep', raw', rfl, hs', ht⟩ :=
          ih _ (by simp at hsize ⊢; omega) hmore (List.cons_ne_nil _ _) hend' rfl
        refine ⟨s :: before, s', deep', raw', rfl, hs', fun t => ?_⟩
        have hcut := hfirst ('/' :: rest ++ t) (.inr ⟨rfl, _, rfl⟩)
        rw [hs, ht] at hcut
        rw [List.cons_append, List.append_assoc, hcut]
        cases steps? deep' (raw' ++ t) <;> rfl

end Steps

/-! ### Characters -/

theorem mem_of_inRanges {ranges : List (Nat × Nat)} {n : Nat} (h : Text.inRanges ranges n = true) :
    n ∈ ranges.flatMap fun r => List.range' r.1 (r.2 + 1 - r.1) := by
  obtain ⟨r, hr, hn⟩ := List.any_eq_true.mp h
  simp only [Bool.and_eq_true, decide_eq_true_eq] at hn
  exact List.mem_flatMap.mpr ⟨r, hr, List.mem_range'_1.mpr (by omega)⟩

theorem isBlank_of_isNameChar {c : Char} (h : isNameChar c = true) : Text.isBlank c = false := by
  have hnone : ∀ n ∈ Text.blankRanges.flatMap (fun r => List.range' r.1 (r.2 + 1 - r.1)),
      isNameChar (Char.ofNat n) = false := by decide +kernel
  by_contra hblank
  have hname := hnone _ (mem_of_inRanges (Bool.eq_true_of_not_eq_false hblank))
  simp [h] at hname

theorem isNameChar_of_isName {cs : List Char} (h : isName cs = true) : ∀ c ∈ cs, isNameChar c = true := by
  rw [isName, Bool.and_eq_true, List.all_eq_true] at h
  exact h.2

theorem isPlain_of_isNameChar {c : Char} (h : isNameChar c = true) : IsPlain c := by
  refine ⟨?_, ?_, ?_, ?_, ?_⟩ <;> rintro rfl <;> revert h <;> decide

theorem isPlain_of_isBlank {c : Char} (h : Text.isBlank c = true) : IsPlain c := by
  refine ⟨?_, ?_, ?_, ?_, ?_⟩ <;> rintro rfl <;> revert h <;> decide

/-! ### Conditions one after the other -/

section Conditions

variable {cs inner after ws : List Char}

theorem trimmed_blanks (h : Text.Blank ws) (cs : List Char) : trimmed (ws ++ cs) = trimmed cs := by
  simpa [trimmed] using Text.trimList_append h (List.forall_mem_nil _) cs

theorem trimmed_append_blanks (h : Text.Blank ws) (cs : List Char) : trimmed (cs ++ ws) = trimmed cs :=
  Text.trimList_append (List.forall_mem_nil _) h cs

/-- A text is blank, or its blanks stand around a text that starts with none. -/
theorem exists_trimmed (cs : List Char) :
    ∃ ws ws', Text.Blank ws ∧ Text.Blank ws' ∧ cs = ws ++ (trimmed cs ++ ws') :=
  Text.exists_trimList Text.isBlank cs

theorem predicatesFrom_congr_trimmed {cs' : List Char} (h : trimmed cs = trimmed cs') (fuel : Nat) :
    predicatesFrom fuel cs = predicatesFrom fuel cs' := by
  cases fuel with
  | zero => rfl
  | succ fuel => rw [predicatesFrom, predicatesFrom, h]

/-- The bound on the number of conditions does not matter where it exceeds the length of the text. -/
theorem predicatesFrom_congr {fuel fuel' : Nat} (h : cs.length < fuel) (h' : cs.length < fuel') :
    predicatesFrom fuel cs = predicatesFrom fuel' cs := by
  induction fuel generalizing fuel' cs with
  | zero => omega
  | succ fuel ih =>
    obtain _ | fuel' := fuel'
    · omega
    obtain ⟨ws, ws', -, -, hcs⟩ := exists_trimmed cs
    have hsize := congrArg List.length hcs
    rw [predicatesFrom, predicatesFrom]
    split
    case h_1 => rfl
    case h_3 => rfl
    case h_2 rest hrest =>
      split
      case h_1 => rfl
      case h_2 inner after hcut =>
        have hlength := congrArg List.length (Text.breakOn_eq_append hcut)
        simp [hrest] at hsize hlength
        have hafter : predicatesFrom fuel after = predicatesFrom fuel' after := ih (by omega) (by omega)
        rw [hafter]

/-- The conditions of a text. -/
def conditions? (cs : List Char) : Except Fault (List Predicate) := predicatesFrom (cs.length + 1) cs

theorem predicatesFrom_eq {fuel : Nat} (h : cs.length < fuel) : predicatesFrom fuel cs = conditions? cs :=
  predicatesFrom_congr h (Nat.lt_succ_self _)

theorem conditions?_congr {cs' : List Char} (h : trimmed cs = trimmed cs') : conditions? cs = conditions? cs' := by
  have hfuel : ∀ {cs'' : List Char}, cs''.length ≤ cs.length + cs'.length →
      predicatesFrom (cs.length + cs'.length + 1) cs'' = conditions? cs'' := fun hle =>
    predicatesFrom_eq (Nat.lt_succ_of_le hle)
  rw [← hfuel (Nat.le_add_right _ _), ← hfuel (Nat.le_add_left _ _), predicatesFrom_congr_trimmed h]

theorem conditions?_of_blank (h : Text.Blank cs) : conditions? cs = .ok [] := by
  have hcs : trimmed cs = trimmed [] := by simpa using trimmed_blanks h []
  exact conditions?_congr hcs

/-- A condition ends at the first closing bracket. -/
theorem conditions?_bracket (h : ']' ∉ inner) (after : List Char) :
    conditions? ('[' :: (inner ++ ']' :: after)) = do
      let p ← predicate? (trimmed inner)
      return p :: (← conditions? after) := by
  have htrimmed : trimmed ('[' :: (inner ++ ']' :: after)) =
      '[' :: (inner ++ ']' :: after.rdropWhile Text.isBlank) := by
    rw [trimmed, Text.trimList_cons (by decide), Text.rdropWhile_append_cons (by decide)]
  have hlength := (List.rdropWhile_prefix Text.isBlank after).length_le
  rw [conditions?, predicatesFrom, htrimmed]
  simp only [Text.breakOn_singleton h]
  rw [predicatesFrom_eq (by simp; omega), conditions?_congr (Text.trimList_rdropWhile after)]

/-- What stands behind the conditions of a step is a fault. -/
theorem conditions?_ne_ok {c : Char} (hc : Text.isBlank c = false) (hopen : c ≠ '[') (rest : List Char)
    (ps : List Predicate) : conditions? (c :: rest) ≠ .ok ps := by
  rw [conditions?, predicatesFrom, trimmed, Text.trimList_cons hc]
  simp [hopen]

/-- A text of conditions. -/
inductive Conditions : List Char → List Predicate → Prop where
  | nil {ws : List Char} (hws : Text.Blank ws) : Conditions ws []
  | cons {ws inner after : List Char} {p : Predicate} {ps : List Predicate} (hws : Text.Blank ws) (hinner : ']' ∉ inner)
    (hp : predicate? (trimmed inner) = .ok p) (hps : Conditions after ps) :
    Conditions (ws ++ '[' :: (inner ++ ']' :: after)) (p :: ps)

theorem conditions_of_ok {ps : List Predicate} (h : conditions? cs = .ok ps) : Conditions cs ps := by
  induction hsize : cs.length using Nat.strongRecOn generalizing cs ps with
  | ind n ih =>
    obtain ⟨ws, ws', hws, hws', hcs⟩ := exists_trimmed cs
    rw [conditions?, predicatesFrom] at h
    split at h
    case h_1 hempty =>
      cases h
      rw [hcs, hempty]
      exact .nil fun c hc => (List.mem_append.mp hc).elim (hws c) (hws' c)
    case h_3 => cases h
    case h_2 rest hrest =>
      split at h
      case h_1 => cases h
      case h_2 inner after hcut =>
        have hsplit := Text.breakOn_eq_append hcut
        have hinner := Text.notMem_of_breakOn hcut
        obtain ⟨p, hp, h⟩ := bind_eq_ok.mp h
        obtain ⟨more, hmore, h⟩ := bind_eq_ok.mp h
        cases h
        rw [hrest, hsplit] at hcs
        have hlength := congrArg List.length hcs
        simp at hlength
        rw [predicatesFrom_eq (by omega), ← conditions?_congr (trimmed_append_blanks hws' after)] at hmore
        have hconditions := ih _ (by simp; omega) hmore rfl
        simpa [hcs] using Conditions.cons hws hinner hp hconditions

/-- Conditions that go on. -/
theorem Conditions.append {ps : List Predicate} (h : Conditions cs ps) (t : List Char) :
    conditions? (cs ++ t) = (conditions? t).map (ps ++ ·) := by
  induction h with
  | nil hws =>
    rw [conditions?_congr (trimmed_blanks hws t)]
    cases conditions? t <;> rfl
  | cons hws hinner hp _ ih =>
    rw [List.append_assoc, conditions?_congr (trimmed_blanks hws _), List.cons_append, List.append_assoc,
      List.cons_append, conditions?_bracket hinner, hp, ih]
    cases conditions? t <;> rfl

/-- A bracket shelters its inside, also where the brackets and quotes of the inside do not match. -/
theorem scan_bracket {state : Nat × Option Char} (h : Sheltered state) (hinner : ']' ∉ inner) :
    ∃ next, scan state ('[' :: (inner ++ [']'])) = some next ∧ Sheltered next := by
  obtain ⟨opened, hopened, hpos⟩ := scanChar_open h
  obtain ⟨inside, hinside, hpos⟩ := scan_inside hpos hinner
  obtain ⟨next, hnext, hsheltered⟩ := scanChar_close hpos
  refine ⟨next, ?_, hsheltered⟩
  rw [scan_cons hopened, scan_append, hinside, Option.bind_some, scan_cons hnext]
  rfl

theorem Conditions.scan {ps : List Predicate} (h : Conditions cs ps) {state : Nat × Option Char}
    (hstate : Sheltered state) : ∃ next, scan state cs = some next ∧ Sheltered next := by
  induction h generalizing state with
  | nil hws => exact scan_sheltered hstate fun c hc => isPlain_of_isBlank (hws c hc)
  | @cons ws inner after p ps hws hinner _ _ ih =>
    obtain ⟨opened, hopened, hstate⟩ := scan_sheltered hstate fun c hc => isPlain_of_isBlank (hws c hc)
    obtain ⟨closed, hclosed, hstate⟩ := scan_bracket hstate hinner
    obtain ⟨next, hnext, hstate⟩ := ih hstate
    have hcs : ws ++ '[' :: (inner ++ ']' :: after) = ws ++ ('[' :: (inner ++ [']']) ++ after) := by simp
    refine ⟨next, ?_, hstate⟩
    rw [hcs, scan_append, hopened, Option.bind_some, scan_append, hclosed, Option.bind_some, hnext]

end Conditions

/-! ### The parts of a step -/

/-- A step with more conditions. -/
def Step.narrow (s : Step) (ps : List Predicate) : Step := { s with predicates := s.predicates ++ ps }

@[simp] theorem Step.isElement_narrow (s : Step) (ps : List Predicate) : (s.narrow ps).isElement = s.isElement := rfl

section Parts

variable {deep : Bool} {head conds ws : List Char} {s : Step}

/-- The text of a step, cut in front of its conditions. -/
structure Written (head conds : List Char) (s : Step) : Prop where
  notMem : '[' ∉ head
  bracket : conds = [] ∨ ∃ rest, conds = '[' :: rest
  target_eq : target? (trimmed head) = some s.target
  conditions : Conditions conds s.predicates

theorem step?_append (hhead : '[' ∉ head) (hconds : conds = [] ∨ ∃ rest, conds = '[' :: rest) {target : Target}
    (htarget : target? (trimmed head) = some target) (deep : Bool) :
    step? deep (head ++ conds) = (conditions? conds).map (⟨deep, target, ·⟩) := by
  have hall : ∀ c ∈ head, (c != '[') = true := fun c hc => bne_iff_ne.mpr fun heq => hhead (heq ▸ hc)
  have hcut : (head ++ conds).takeWhile (· != '[') = head ∧ (head ++ conds).dropWhile (· != '[') = conds := by
    rw [List.takeWhile_append_of_pos hall, List.dropWhile_append_of_pos hall]
    rcases hconds with rfl | ⟨rest, rfl⟩ <;> simp
  have hsize : conds.length < (head ++ conds).length + 1 := by simp
  simp only [step?, hcut, htarget, predicatesFrom_eq hsize]
  cases conditions? conds <;> rfl

theorem written_of_ok {raw : List Char} (h : step? deep raw = .ok s) :
    s.deep = deep ∧ ∃ head conds, raw = head ++ conds ∧ Written head conds s := by
  have hraw := (List.takeWhile_append_dropWhile (p := (· != '[')) (l := raw)).symm
  have hhead : '[' ∉ raw.takeWhile (· != '[') := fun hmem => by simpa using List.mem_takeWhile_imp hmem
  have hconds : raw.dropWhile (· != '[') = [] ∨ ∃ rest, raw.dropWhile (· != '[') = '[' :: rest := by
    cases hrest : raw.dropWhile (· != '[') with
    | nil => exact .inl rfl
    | cons c rest =>
      have hc := List.dropWhile_get_zero_not (· != '[') raw (by simp [hrest])
      simp [hrest] at hc
      exact .inr ⟨rest, by rw [hc]⟩
  cases htarget : target? (trimmed (raw.takeWhile (· != '['))) with
  | none => simp [step?, htarget] at h
  | some target =>
    rw [hraw, step?_append hhead hconds htarget, map_eq_ok] at h
    obtain ⟨ps, hps, rfl⟩ := h
    exact ⟨rfl, _, _, hraw, hhead, hconds, htarget, conditions_of_ok hps⟩

namespace Written

theorem append (h : Written head conds s) (hne : conds ≠ []) (t : List Char) :
    step? s.deep (head ++ (conds ++ t)) = (conditions? t).map s.narrow := by
  obtain ⟨rest, rfl⟩ := h.bracket.resolve_left hne
  rw [List.cons_append, step?_append h.notMem (.inr ⟨_, rfl⟩) h.target_eq, ← List.cons_append, h.conditions.append]
  cases conditions? t <;> rfl

/-- A step that goes on with a bracket, or with blanks only, has the conditions that follow too. -/
theorem append_conditions (h : Written head conds s) (hws : Text.Blank ws) {more : List Char}
    (hmore : more = [] ∨ ∃ rest, more = '[' :: rest) :
    step? s.deep (head ++ (conds ++ (ws ++ more))) = (conditions? more).map s.narrow := by
  -- without conditions the blanks belong to the head of the step, and to its conditions otherwise
  by_cases hconds : conds = []
  · subst hconds
    have hpredicates : s.predicates = [] := by
      have hnone := h.conditions.append []
      rw [List.append_nil, conditions?_of_blank (List.forall_mem_nil _)] at hnone
      simpa [Except.map] using hnone
    have hhead : '[' ∉ head ++ ws := by
      refine fun hmem => (List.mem_append.mp hmem).elim h.notMem fun hmem => ?_
      exact absurd (hws _ hmem) (by decide)
    have htarget : target? (trimmed (head ++ ws)) = some s.target := by
      rw [trimmed_append_blanks hws]
      exact h.target_eq
    have hnarrow : (⟨s.deep, s.target, ·⟩) = s.narrow := by
      funext ps
      rw [Step.narrow, hpredicates, List.nil_append]
    rw [List.nil_append, ← List.append_assoc, step?_append hhead hmore htarget, hnarrow]
  · rw [h.append hconds, conditions?_congr (trimmed_blanks hws more)]

end Written

/-- The head of an element step holds blanks and a name, or a star. -/
theorem Written.head_plain (h : Written head conds s) (hs : s.isElement = true) : ∀ c ∈ head, IsPlain c := by
  have hname : trimmed head = ['*'] ∨ isName (trimmed head) = true := by
    have htarget := h.target_eq
    unfold target? at htarget
    unfold Step.isElement at hs
    split at hs
    case h_2 => cases hs
    case h_1 name helement =>
      rw [helement] at htarget
      split at htarget
      case isTrue => cases htarget
      case isFalse =>
        split at htarget
        case h_1 => cases htarget
        case h_2 =>
          split_ifs at htarget with hhead
          simpa using hhead
  have hplain : ∀ c ∈ trimmed head, IsPlain c := by
    intro c hc
    rcases hname with hstar | hname
    · rw [hstar, List.mem_singleton] at hc
      subst hc
      simp [IsPlain]
    · exact isPlain_of_isNameChar (isNameChar_of_isName hname c hc)
  obtain ⟨ws, ws', hws, hws', hhead⟩ := exists_trimmed head
  intro c hc
  rw [hhead, List.mem_append, List.mem_append] at hc
  exact hc.elim (fun hc => isPlain_of_isBlank (hws c hc)) fun hc =>
    hc.elim (hplain c) fun hc => isPlain_of_isBlank (hws' c hc)

/-- The text of an element step leaves no quote open but inside of brackets, and no bracket open without conditions. -/
theorem Written.scan (h : Written head conds s) (hs : s.isElement = true) :
    ∃ next, scan (0, none) (head ++ conds) = some next ∧ Sheltered next ∧ (conds = [] → next = (0, none)) := by
  have hhead := scan_plain (h.head_plain hs) 0
  obtain ⟨next, hnext, hsheltered⟩ := h.conditions.scan (show Sheltered (0, none) from .inl rfl)
  refine ⟨next, by rw [scan_append, hhead, Option.bind_some, hnext], hsheltered, ?_⟩
  rintro rfl
  cases hnext
  rfl

end Parts

/-! ### Paths -/

namespace Path

variable {text : String} {path : Path}

/-- A path of steps, of which all but the last one must be element steps. -/
def ofSteps? (absolute : Bool) (steps : List Step) : Except Fault Path := do
  if steps.isEmpty then throw .noSteps
  if !steps.dropLast.all Step.isElement then throw .earlyTarget
  return ⟨absolute, steps⟩

theorem ofSteps?_eq_ok_iff {absolute : Bool} {steps : List Step} : ofSteps? absolute steps = .ok path ↔
    steps ≠ [] ∧ (∀ s ∈ steps.dropLast, s.isElement = true) ∧ path = ⟨absolute, steps⟩ := by
  rw [← List.all_eq_true]
  unfold ofSteps?
  by_cases hne : steps = []
  · subst hne
    exact ⟨fun h => (nomatch h), fun h => absurd rfl h.1⟩
  by_cases hall : steps.dropLast.all Step.isElement = true
  · simp only [List.isEmpty_eq_false_iff.mpr hne, hall]
    exact ⟨fun h => ⟨hne, trivial, by cases h; rfl⟩, fun h => by rw [h.2.2]; rfl⟩
  · simp only [List.isEmpty_eq_false_iff.mpr hne, hall]
    exact ⟨fun h => (nomatch h), fun h => absurd h.2.1 Bool.false_ne_true⟩

theorem ofText?_eq (text : String) : ofText? text =
    if trimmed text.toList = [] then .error .empty
    else steps? false (trimmed text.toList) >>= ofSteps? (decide ((trimmed text.toList).head? = some '/')) := by
  unfold ofText?
  by_cases hempty : trimmed text.toList = []
  · simp only [hempty]
    rfl
  · simp only [List.isEmpty_eq_false_iff.mpr hempty, if_neg hempty]
    rfl

/-- What stands in a path that is read. -/
theorem steps_of_ok (h : ofText? text = .ok path) :
    trimmed text.toList ≠ [] ∧ steps? false (trimmed text.toList) = .ok path.steps ∧ path.steps ≠ [] ∧
      (∀ s ∈ path.steps.dropLast, s.isElement = true) ∧
      path.absolute = decide ((trimmed text.toList).head? = some '/') := by
  rw [ofText?_eq] at h
  split at h
  case isTrue => cases h
  case isFalse hne =>
    obtain ⟨steps, hsteps, h⟩ := bind_eq_ok.mp h
    obtain ⟨hsome, hall, rfl⟩ := ofSteps?_eq_ok_iff.mp h
    exact ⟨hne, hsteps, hsome, hall, rfl⟩

/-- Where the text of a path goes on: the text of its last step, the blanks behind it, and what is read of more text. -/
structure Ending (text : String) (path : Path) where
  before : List Step
  last : Step
  steps_eq : path.steps = before ++ [last]
  head : List Char
  conds : List Char
  written : Written head conds last
  blanks : List Char
  isBlank : Text.Blank blanks
  append : ∀ t c, t.getLast? = some c → Text.isBlank c = false →
    ofText? (text ++ String.ofList t) =
      steps? last.deep (head ++ (conds ++ (blanks ++ t))) >>= fun more => ofSteps? path.absolute (before ++ more)

/-- More text behind a path is trimmed at its own end only. -/
theorem exists_trimmed_append (hne : trimmed text.toList ≠ []) :
    ∃ ws, Text.Blank ws ∧ ∀ t c, t.getLast? = some c → Text.isBlank c = false →
      trimmed (text ++ String.ofList t).toList = trimmed text.toList ++ (ws ++ t) := by
  obtain ⟨ws, ws', hws, hws', htext⟩ := exists_trimmed text.toList
  have hcore : trimmed (trimmed text.toList) = trimmed text.toList := by
    conv_rhs => rw [htext, trimmed_blanks hws, trimmed_append_blanks hws']
  refine ⟨ws', hws', fun t c ht hc => ?_⟩
  have hsplit : (text ++ String.ofList t).toList = ws ++ (trimmed text.toList ++ (ws' ++ t)) := by
    rw [String.toList_append, String.toList_ofList]
    conv_lhs => rw [htext]
    simp
  rw [hsplit, trimmed_blanks hws]
  refine Text.trimList_eq_self_iff.mpr ⟨fun d hd => ?_, fun d hd => ?_⟩
  · rw [List.head?_append_of_ne_nil _ hne] at hd
    exact (Text.trimList_eq_self_iff.mp hcore).1 d hd
  · have htne : t ≠ [] := by
      rintro rfl
      cases ht
    rw [← List.append_assoc, List.getLast?_append_of_ne_nil _ htne, ht] at hd
    cases hd
    exact hc

theorem exists_ending (h : ofText? text = .ok path) (hend : (trimmed text.toList).getLast? ≠ some '/') :
    Nonempty (Ending text path) := by
  obtain ⟨hne, hsteps, -, -, habsolute⟩ := steps_of_ok h
  obtain ⟨before, last, deep, raw, heq, hlast, hmore⟩ := exists_last_step hsteps hne hend
  obtain ⟨rfl, head, conds, rfl, hwritten⟩ := written_of_ok hlast
  obtain ⟨ws, hws, htrimmed⟩ := exists_trimmed_append hne
  refine ⟨before, last, heq, head, conds, hwritten, ws, hws, fun t c ht hc => ?_⟩
  have hnonempty : trimmed text.toList ++ (ws ++ t) ≠ [] := List.append_ne_nil_of_left_ne_nil hne _
  rw [ofText?_eq, htrimmed t c ht hc, if_neg hnonempty, hmore, List.head?_append_of_ne_nil _ hne, ← habsolute,
    List.append_assoc]
  cases steps? last.deep (head ++ (conds ++ (ws ++ t))) <;> rfl

theorem Ending.ne_nil (e : Ending text path) (more : List Char) : e.head ++ more ≠ [] := by
  refine List.append_ne_nil_of_left_ne_nil (fun hhead => ?_) more
  have htarget := e.written.target_eq
  rw [hhead] at htarget
  cases htarget

section ElementStep

variable {e : Ending text path} (hlast : e.last.isElement = true)

include hlast

/-- Where more text goes on. -/
theorem Ending.scan : ∃ next, scan (0, none) (e.head ++ (e.conds ++ e.blanks)) = some next ∧ Sheltered next ∧
    (e.conds = [] → next = (0, none)) := by
  have hblanks : ∀ c ∈ e.blanks, IsPlain c := fun c hc => isPlain_of_isBlank (e.isBlank c hc)
  obtain ⟨state, hstate, hsheltered, hnone⟩ := e.written.scan hlast
  obtain ⟨next, hnext, hsheltered⟩ := scan_sheltered hsheltered hblanks
  refine ⟨next, ?_, hsheltered, fun hconds => ?_⟩
  · rw [← List.append_assoc, scan_append, hstate, Option.bind_some, hnext]
  · rw [hnone hconds, scan_plain hblanks] at hnext
    exact (Option.some.inj hnext).symm

/-- A bracket behind a path of element steps is a condition of the last step. -/
theorem Ending.append_bracket {inner u : List Char} (hinner : ']' ∉ inner) {c : Char}
    (hu : (']' :: u).getLast? = some c) (hc : Text.isBlank c = false) :
    ∃ more tail, u = more ++ tail ∧ ofText? (text ++ String.ofList ('[' :: (inner ++ ']' :: u))) = (do
      let p ← predicate? (trimmed inner)
      let ps ← conditions? more
      let rest ← steps? false tail
      ofSteps? path.absolute (e.before ++ e.last.narrow (p :: ps) :: rest)) := by
  obtain ⟨state, hstate, hsheltered, -⟩ := e.scan hlast
  obtain ⟨next, hnext, -⟩ := scan_bracket hsheltered hinner
  have hraw : XPath.scan (0, none) (e.head ++ (e.conds ++ (e.blanks ++ '[' :: (inner ++ [']'])))) = some next := by
    have hsplit : e.head ++ (e.conds ++ (e.blanks ++ '[' :: (inner ++ [']']))) =
        e.head ++ (e.conds ++ e.blanks) ++ '[' :: (inner ++ [']']) := by simp
    rw [hsplit, scan_append, hstate, Option.bind_some, hnext]
  -- up to the bracket's end no step ends, so that what is read first starts with the old step and the bracket
  obtain ⟨more, tail, rfl, hsteps⟩ := exists_steps?_append e.last.deep (e.ne_nil _) hraw u
  refine ⟨more, tail, rfl, ?_⟩
  have hread := e.written.append_conditions e.isBlank (.inr ⟨inner ++ ']' :: more, rfl⟩)
  rw [conditions?_bracket hinner] at hread
  have hcut : ∀ rest, e.head ++ (e.conds ++ (e.blanks ++ '[' :: (inner ++ [']']))) ++ rest =
      e.head ++ (e.conds ++ (e.blanks ++ '[' :: (inner ++ ']' :: rest))) := by simp
  rw [hcut, hcut, hread] at hsteps
  have hlast : ('[' :: (inner ++ ']' :: (more ++ tail))).getLast? = some c := by
    rw [← List.cons_append, List.getLast?_append_of_ne_nil _ (List.cons_ne_nil _ _), hu]
  rw [e.append _ c hlast hc, hsteps]
  cases predicate? (trimmed inner) with
  | error => rfl
  | ok p =>
    cases conditions? more with
    | error => rfl
    | ok ps => cases steps? false tail <;> rfl

/-- A slash behind a path of element steps starts more steps; in brackets that are left open it is a fault. -/
theorem Ending.append_slash {c d : Char} {u : List Char} (hc : c ≠ '/') (hu : (c :: u).getLast? = some d)
    (hd : Text.isBlank d = false) {path' : Path} (h : ofText? (text ++ String.ofList ('/' :: c :: u)) = .ok path') :
    ∃ more, steps? false (c :: u) = .ok more ∧ ofSteps? path.absolute (path.steps ++ more) = .ok path' := by
  have hend : ('/' :: c :: u).getLast? = some d := by rw [List.getLast?_cons_cons, hu]
  rw [e.append _ d hend hd] at h
  obtain ⟨steps, hsteps, h⟩ := bind_eq_ok.mp h
  obtain ⟨next, hnext, hsheltered, hopen⟩ := e.scan hlast
  have hne : e.head ++ (e.conds ++ e.blanks) ≠ [] := e.ne_nil _
  have hsplit : e.head ++ (e.conds ++ (e.blanks ++ '/' :: c :: u)) =
      e.head ++ (e.conds ++ e.blanks) ++ '/' :: c :: u := by simp
  rw [hsplit] at hsteps
  -- where nothing is open the slash ends the step; otherwise the step goes on behind its conditions, which is a fault
  by_cases hclosed : next = (0, none)
  · have hlast := e.written.append_conditions e.isBlank (.inl rfl)
    rw [List.append_nil, conditions?_of_blank (List.forall_mem_nil _)] at hlast
    rw [steps?_append e.last.deep hne hnext (.inr ⟨hclosed, _, rfl⟩), hlast, steps?_slash false hc] at hsteps
    obtain ⟨_, hnarrow, hsteps⟩ := bind_eq_ok.mp hsteps
    obtain ⟨more, hmore, hsteps⟩ := bind_eq_ok.mp hsteps
    cases hnarrow
    cases hsteps
    refine ⟨more, hmore, ?_⟩
    rw [e.steps_eq, List.append_assoc]
    simpa [Step.narrow] using h
  · have hconds : e.conds ≠ [] := fun hnil => hclosed (hopen hnil)
    obtain ⟨inside, hinside, -⟩ := scan_inside (hsheltered.pos hclosed) (show ']' ∉ ['/'] by decide)
    have hraw : XPath.scan (0, none) (e.head ++ (e.conds ++ e.blanks) ++ ['/']) = some inside := by
      rw [scan_append, hnext, Option.bind_some, hinside]
    obtain ⟨rest, tail, -, hread⟩ :=
      exists_steps?_append e.last.deep (List.append_ne_nil_of_left_ne_nil hne _) hraw (c :: u)
    have hfault := e.written.append hconds (e.blanks ++ '/' :: rest)
    rw [conditions?_congr (trimmed_blanks e.isBlank _)] at hfault
    have hcut : e.head ++ (e.conds ++ e.blanks) ++ ['/'] ++ rest =
        e.head ++ (e.conds ++ (e.blanks ++ '/' :: rest)) := by simp
    rw [List.append_cons, hread, hcut, hfault] at hsteps
    obtain ⟨s, hs, -⟩ := bind_eq_ok.mp hsteps
    obtain ⟨ps, hps, -⟩ := map_eq_ok.mp hs
    exact absurd hps (conditions?_ne_ok (by decide) (by decide) rest ps)

end ElementStep

end Path

end Casebook.Markup.XPath
