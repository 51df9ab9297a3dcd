import Casebook.Batch.StatusChannel
import Casebook.Proofs.Files
import Casebook.Proofs.Json.Reading

/-! Requested statuses in a file.  A file that only the channel writes answers every call as memory does, and a file that
holds anything else is left alone. -/
namespace Casebook

open Json

namespace StatusChannel

/-! ### Statuses as text -/

theorem status?_quoted (s : Status) {size : Nat} (h : (quoted s.name).length ≤ size) (rest : List Char) :
    status? size (Reader.skipBlank ((quoted s.name).toList ++ rest)) = some (s, rest) := by
  have hlt : s.name.length < size := Nat.lt_of_lt_of_le (length_lt_quoted s.name) h
  have hquote : ∀ rest, Reader.skipBlank ('"' :: rest) = '"' :: rest := fun _ => rfl
  rw [toList_quoted, List.cons_append, List.append_assoc, hquote, List.singleton_append]
  simp only [status?, Reader.stringTail?_quoted hlt, Status.ofName?_name, Option.bind_eq_bind, Option.bind_some]
  rfl

theorem prettyAt_toJson (depth : Nat) (s : Status) : s.toJson.prettyAt depth = quoted s.name := by
  simp [Status.toJson, Value.prettyAt, Value.text]

/-- A text that starts with a brace is not blank. -/
theorem isEmpty_trim_of_brace {text : String} {cs : List Char} (h : text.toList = '{' :: cs) :
    (Text.trim text).isEmpty = false := by
  have hbrace : Text.isBlank '{' = false := by decide
  have hstart : ('{' :: cs).dropWhile Text.isBlank = '{' :: cs := List.dropWhile_cons_of_neg (by simp [hbrace])
  refine Bool.eq_false_iff.mpr fun hempty => ?_
  have hnil := congrArg String.toList (String.isEmpty_iff.mp hempty)
  rw [Text.trim, Text.trimWith, h, String.toList_ofList, Text.trimList, hstart] at hnil
  have hall := List.dropWhile_eq_nil_iff.mp (List.reverse_eq_nil_iff.mp hnil) '{' (by simp)
  rw [hbrace] at hall
  cases hall

/-- The text of statuses is that of an object. -/
theorem exists_toList_textOf (d : Dict Status) : ∃ cs, (textOf d).toList = '{' :: cs := by
  cases d with
  | nil => exact ⟨['}'], by simp [textOf, Value.pretty, Value.prettyAt, Value.text, Value.membersText]⟩
  | cons e d =>
    rw [textOf, List.map_cons, Value.pretty, Value.prettyAt, String.append_assoc, String.append_assoc]
    exact ⟨_, String.toList_append⟩

/-- The statuses that were written are read back, whatever the names of their users. -/
theorem statusesOf_textOf {d : Dict Status} (h : d.Sorted) : statusesOf (textOf d) = .ok d := by
  obtain ⟨cs, hcs⟩ := exists_toList_textOf d
  have hentries : Reader.entriesOf? status? (textOf d) = some d := by
    refine Reader.entriesOf?_pretty d fun e _ size hsize rest => ?_
    rw [prettyAt_toJson] at hsize ⊢
    exact status?_quoted e.2 hsize rest
  rw [statusesOf, isEmpty_trim_of_brace hcs, hentries]
  simp only [Bool.false_eq_true, if_false, h.ofList_eq]

/-- A status as JSON: its name, or an object of its name with null. -/
def IsStatus (v : Value) : Prop := ∃ s : Status, v = .string s.name ∨ v = .object [(s.name, .null)]

/-- A text holds an object of which every entry is a status. -/
def HoldsStatuses (content : String) : Prop :=
  ∃ entries, Reader.entriesOf? (fun size => Reader.value? size 127) content = some entries ∧
    ∀ e ∈ entries, IsStatus e.2

theorem ofName?_eq_some {name : String} {s : Status} (h : Status.ofName? name = some s) : s.name = name := by
  simpa using List.find?_some h

theorem value?_of_null? {size depth : Nat} {cs rest : List Char} {u : Unit} (h : Reader.null? cs = some (u, rest)) :
    Reader.value? size (depth + 1) cs = some (.null, rest) := by
  simp only [Reader.null?, Reader.word?, Option.map_eq_some_iff] at h
  obtain ⟨more, hword, hmore⟩ := h
  cases hmore
  split at hword
  case isFalse => cases hword
  case isTrue hprefix =>
    obtain ⟨tail, rfl⟩ := List.isPrefixOf_iff_prefix.mp hprefix
    rw [List.drop_left] at hword
    cases hword
    simp [Reader.value?, Reader.scalar?, Reader.word?]

/-- What is read as a status is read as JSON of a status. -/
theorem exists_of_status? (depth : Nat) {size : Nat} {cs rest : List Char} {s : Status} (h : status? size cs = some (s, rest)) :
    ∃ v, Reader.value? size (depth + 2) cs = some (v, rest) ∧ IsStatus v := by
  unfold status? at h
  split at h
  · simp only [Option.bind_eq_bind, Option.bind_eq_some_iff, Prod.exists] at h
    obtain ⟨name, more, hname, s', hs, h⟩ := h
    cases h
    refine ⟨.string name, ?_, s, .inl (by rw [ofName?_eq_some hs])⟩
    simp [Reader.value?, Reader.scalar?, hname]
  · simp only [Option.bind_eq_bind, Option.bind_eq_some_iff, Prod.exists] at h
    obtain ⟨es, more, hes, h⟩ := h
    split at h
    case h_2 => cases h
    case h_1 name tail hpair =>
      cases hpair
      obtain ⟨s', hs, h⟩ := Option.bind_eq_some_iff.mp h
      cases h
      have hnull : ∀ cs (u : Unit) rest, Reader.null? cs = some (u, rest) →
          ∃ v, Reader.value? size (depth + 1) cs = some (v, rest) ∧ v = .null :=
        fun cs u rest hnull => ⟨.null, value?_of_null? hnull, rfl⟩
      obtain ⟨es', hes', hnulls⟩ := Reader.exists_object? hnull hes
      cases hnulls with
      | @cons _ e _ _ hentry hnil =>
        obtain ⟨key, v⟩ := e
        obtain ⟨rfl, rfl⟩ := hentry
        cases hnil
        refine ⟨.object [(name, .null)], ?_, s, .inr (by rw [ofName?_eq_some hs])⟩
        rw [Reader.value?, if_neg (Nat.succ_ne_zero depth), hes']
        rfl
  · cases h

/-- Only a text of an object of statuses is read. -/
theorem holdsStatuses_of_entriesOf? {content : String} {entries : List (String × Status)}
    (h : Reader.entriesOf? status? content = some entries) : HoldsStatuses content := by
  unfold Reader.entriesOf? Reader.whole? at h
  simp only at h
  split at h
  case h_2 => cases h
  case h_1 es rest hread =>
    split at h
    case isFalse => cases h
    case isTrue hrest =>
      cases h
      split at hread
      case h_2 => cases hread
      case h_1 more hbrace =>
        obtain ⟨es', hes', hstatuses⟩ := Reader.exists_object? (R := fun _ v => IsStatus v) (fun _ _ _ => exists_of_status? 125) hread
        refine ⟨es', by simp [Reader.entriesOf?, Reader.whole?, hbrace, hes', hrest], ?_⟩
        intro e he
        clear hread hes'
        induction hstatuses with
        | nil => cases he
        | cons hentry _ ih =>
          rcases List.mem_cons.mp he with rfl | he
          · exact hentry.2
          · exact ih he

/-! ### Calls -/

/-- A call on a channel. -/
inductive Call where
  | get (user : String)
  | set (user : String) (status : Status)

variable {σ : Type} (c : StatusChannel σ)

/-- The answer to a call, which is a status if one was asked for, and the state after it. -/
def answer : Call → σ → Except RepositoryError (Option Status) × σ
  | .get user, s => ((c.get user s).map some, s)
  | .set user status, s => ((c.set user status s).1.map fun _ => none, (c.set user status s).2)

/-- The answers to calls one after another. -/
def answers : List Call → σ → List (Except RepositoryError (Option Status))
  | [], _ => []
  | call :: calls, s => (c.answer call s).1 :: answers calls (c.answer call s).2

/-- The status that was last set for a user; a user without one is waiting. -/
def lastSet (user : String) (calls : List Call) : Status :=
  (calls.reverse.findSome? fun
    | .set other status => if other = user then some status else none
    | .get _ => none).getD .waiting

/-- What a call is to be answered after earlier ones. -/
def Call.due (earlier : List Call) : Call → Option Status
  | .get user => some (lastSet user earlier)
  | .set .. => none

/-- What calls are to be answered after earlier ones. -/
def due : (earlier : List Call) → List Call → List (Except RepositoryError (Option Status))
  | _, [] => []
  | earlier, call :: calls => .ok (call.due earlier) :: due (earlier ++ [call]) calls

/-- A channel over states that hold statuses: it looks a status up, and sets one among the others. -/
structure Keeps (c : StatusChannel σ) (Holds : σ → Dict Status → Prop) : Prop where
  get : ∀ {s d} user, Holds s d → c.get user s = .ok ((Dict.get? user d).getD .waiting)
  set : ∀ {s d} user status, Holds s d →
    ∃ s', c.set user status s = (.ok (), s') ∧ Holds s' (Dict.insert user status d)

theorem lastSet_concat_get (user other : String) (calls : List Call) :
    lastSet user (calls ++ [.get other]) = lastSet user calls := by
  simp [lastSet]

theorem lastSet_concat_set (user other : String) (status : Status) (calls : List Call) :
    lastSet user (calls ++ [.set other status]) = if other = user then status else lastSet user calls := by
  unfold lastSet
  rw [List.reverse_append, List.reverse_singleton, List.singleton_append, List.findSome?_cons]
  split <;> simp_all

/-- A channel that holds what was last set answers as it should from then on. -/
theorem Keeps.answers_eq {Holds : σ → Dict Status → Prop} (hkeeps : c.Keeps Holds) (calls : List Call)
    {s : σ} {d : Dict Status} {earlier : List Call} (hs : Holds s d)
    (hd : ∀ user, (Dict.get? user d).getD .waiting = lastSet user earlier) :
    c.answers calls s = due earlier calls := by
  induction calls generalizing s d earlier with
  | nil => rfl
  | cons call calls ih =>
    rw [answers, due]
    cases call with
    | get user =>
      have hanswer : c.answer (.get user) s = (.ok (some (lastSet user earlier)), s) := by
        rw [answer, hkeeps.get user hs, hd]
        rfl
      rw [hanswer]
      congr 1
      exact ih hs fun other => (hd other).trans (lastSet_concat_get other user earlier).symm
    | set user status =>
      obtain ⟨s', hset, hs'⟩ := hkeeps.set user status hs
      have hanswer : c.answer (.set user status) s = (.ok none, s') := by
        rw [answer, hset]
        rfl
      rw [hanswer]
      congr 1
      refine ih hs' fun other => ?_
      rw [lastSet_concat_set]
      split
      case isTrue h => rw [← h, Dict.get?_insert_self, Option.getD_some]
      case isFalse h => rw [Dict.get?_insert_of_ne (Ne.symm h), hd]

theorem memory_keeps : memory.Keeps fun s d => s = d where
  get user h := by rw [← h]; rfl
  set user status h := ⟨_, rfl, by rw [h]⟩

theorem file_keeps (path : String) :
    (file path).Keeps fun fs d => fs.Takes path ∧ d.Sorted ∧ readAll path fs = .ok d where
  get user h := by
    obtain ⟨-, -, hread⟩ := h
    simp only [file, hread]
    rfl
  set {fs d} user status h := by
    obtain ⟨htakes, hsorted, hread⟩ := h
    have hinsert : (Dict.insert user status d).Sorted := hsorted.insert user status
    obtain ⟨hexists, hread', htakes'⟩ := htakes.written (textOf (Dict.insert user status d))
    refine ⟨(fs.prepared path).put (Place.ofPath path) (textOf (Dict.insert user status d)), ?_, htakes', hinsert, ?_⟩
    · simp only [file, hread, htakes.writeWithin_eq]
      rfl
    · simp only [readAll, hexists, if_true, hread', Except.mapError, Except.bind, statusesOf_textOf hinsert]

/-- Neither call succeeds on a file that holds neither nothing nor statuses, and neither changes it. -/
theorem file_refuses {path content : String} {fs : FileStore} (hread : fs.read? path = .ok content)
    (hblank : (Text.trim content).isEmpty = false) (hcontent : ¬HoldsStatuses content) (user : String) (status : Status) :
    (∃ fault, (file path).get user fs = .error fault) ∧ ∃ fault, (file path).set user status fs = (.error fault, fs) := by
  have hexists : fs.exists? path = true := FileStore.exists?_of_read? hread
  have hnone : Reader.entriesOf? status? content = none :=
    Option.eq_none_iff_forall_ne_some.mpr fun entries hentries => hcontent (holdsStatuses_of_entriesOf? hentries)
  have hall : readAll path fs = .error (.serialization "invalid run statuses") := by
    simp only [readAll, hexists, if_true, hread, Except.mapError, Except.bind, statusesOf, hblank, hnone,
      Bool.false_eq_true, if_false]
  refine ⟨⟨.serialization "invalid run statuses", ?_⟩, .serialization "invalid run statuses", ?_⟩
  · simp only [file, hall]
    rfl
  · simp only [file, hall]

/-- From where there is no file but one can be written, the channel over the file answers every sequence of calls as the
one in memory does: with the status that was last set for the user, or waiting.  On a file that is not blank and does not
hold statuses both calls fail and change nothing. -/
theorem file_channel_agrees_with_memory (path : String) (fs : FileStore) :
    (fs.exists? path = false → fs.Writable path → ∀ calls,
      (file path).answers calls fs = memory.answers calls [] ∧ memory.answers calls [] = due [] calls) ∧
    ∀ content, fs.read? path = .ok content → (Text.trim content).isEmpty = false → ¬HoldsStatuses content →
      ∀ user status, (∃ fault, (file path).get user fs = .error fault) ∧
        ∃ fault, (file path).set user status fs = (.error fault, fs) := by
  refine ⟨fun hnone hwritable calls => ?_, fun content hread hblank hcontent user status =>
    file_refuses hread hblank hcontent user status⟩
  have hstart : readAll path fs = .ok [] := by rw [readAll, hnone, if_neg Bool.false_ne_true]
  have hsorted : Dict.Sorted ([] : Dict Status) := List.Pairwise.nil
  have hunset : ∀ user, (Dict.get? user []).getD .waiting = lastSet user [] := fun _ => rfl
  have hfile := (file_keeps path).answers_eq _ calls ⟨hwritable.takes, hsorted, hstart⟩ hunset
  have hmemory := memory_keeps.answers_eq _ calls rfl hunset
  exact ⟨hfile.trans hmemory.symm, hmemory⟩

/-- A file that somebody spoiled. -/
def spoiled : FileStore := ⟨[(["status.json"], "not json")], []⟩

theorem default_file_agrees_with_memory :
    let calls : List Call := [.set "a\"\n" .running, .set "b" .interrupt, .set "b" .waiting, .get "a\"\n", .get "c"]
    (FileStore.empty.exists? defaultPath = false ∧ FileStore.empty.Writable defaultPath ∧
      (file defaultPath).answers calls .empty =
        [.ok none, .ok none, .ok none, .ok (some .running), .ok (some .waiting)]) ∧
    spoiled.read? "status.json" = .ok "not json" ∧ (Text.trim "not json").isEmpty = false ∧
      ¬HoldsStatuses "not json" ∧ ∃ fault, (file "status.json").set "b" .interrupt spoiled = (.error fault, spoiled) := by
  intro calls
  have hnone : FileStore.empty.exists? defaultPath = false := by decide
  have hwritable : FileStore.empty.Writable defaultPath := by unfold FileStore.Writable; decide +kernel
  have hread : spoiled.read? "status.json" = .ok "not json" := by rfl
  have hblank : (Text.trim "not json").isEmpty = false := by decide
  have hcontent : ¬HoldsStatuses "not json" := fun ⟨_, hentries, _⟩ => nomatch hentries
  obtain ⟨hfile, hdue⟩ := (file_channel_agrees_with_memory defaultPath .empty).1 hnone hwritable calls
  refine ⟨⟨hnone, hwritable, hfile.trans (hdue.trans ?_)⟩, hread, hblank, hcontent, ?_⟩
  · rfl
  · exact ((file_channel_agrees_with_memory "status.json" spoiled).2 _ hread hblank hcontent "b" .interrupt).2

end StatusChannel

end Casebook
