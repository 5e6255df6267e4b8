import Mathlib.Data.Finset.Insert
import Mathlib.Data.Fintype.Basic
import Mathlib.Logic.Function.Basic
import Mostrix.Library.Hex
import Mostrix.Library.Run
import Mostrix.Library.Text

/-!
# The files of the inner ids

`remember_inner_id_at_path` of `ui/helpers/chat_storage.rs` keeps the inner ids of a chat twice: in
a set of the process, which is loaded from the chat's file when the path is first asked for, and in
the file, to which each new id is appended as a line of hexadecimal digits. Where the append fails,
the id is taken out of the set again.

The set and the file agree as long as the file ends with a newline where an id is appended, and a
write that fails has left nothing in it that changes its ids. `writeln!` writes the digits and the
newline one after the other, so a write can fail with a part of the line written: a part shorter
than the digits spoils the next line, and the digits without the newline are an id of the file that
the set has lost.

A file that is not there, or cannot be read, has no ids. Files are texts, since all that is written
in them is ASCII.
-/

namespace Mostrix.Chat

open Text

/-- `EventId::to_hex` and `EventId::from_str`. The latter reads more than hexadecimal digits, and of
these exactly as many as `to_hex` writes. -/
structure EventIdText (Id : Type) where
  toHex : Id → Text
  fromStr : Text → Option Id
  isWord : ∀ id, IsWord (toHex id)
  read : ∀ id, fromStr (toHex id) = some id
  /-- More digits than those of an id are none. -/
  longer : ∀ t id, t ≠ [] → fromStr (t ++ toHex id) = none
  /-- Nor are fewer. -/
  shorter : ∀ id n, n < (toHex id).length → fromStr ((toHex id).take n) = none

/-- The set that the process keeps for a path, once it is loaded, and the path's file. -/
structure InnerIds (Id : Type) where
  cache : Option (Finset Id) := none
  file : Option Text := none
deriving DecidableEq

/-- What the file system makes of an append. -/
inductive Append where
  /-- `create_dir_all` fails. -/
  | noDir
  /-- `open` fails. -/
  | noFile
  /-- `writeln!` fails when so many characters are written. -/
  | torn (written : Nat)
  | done
deriving DecidableEq

section
variable {Id : Type} [DecidableEq Id] (f : EventIdText Id)

/-- The id on a line of the file. -/
def lineId (line : Text) : Option Id :=
  if trim line = [] then none else f.fromStr (trim line)

/-- The ids of a file's content. -/
def idsIn (content : Text) : Finset Id := ((lines content).filterMap (lineId f)).toFinset

/-- `load_inner_ids_from_path`. -/
def loadInnerIds : Option Text → Finset Id
  | none => ∅
  | some content => idsIn f content

/-- `with_inner_id_set`: `g` is run on the set of the path, which is loaded before if it has to
be. -/
def withInnerIdSet {R : Type} (s : InnerIds Id) (g : Finset Id → Finset Id × R) : InnerIds Id × R :=
  let set := s.cache.getD (loadInnerIds f s.file)
  ({ s with cache := some (g set).1 }, (g set).2)

/-- The file after a text is written at its end; `open` makes the file. -/
def InnerIds.append (s : InnerIds Id) (written : Text) : InnerIds Id :=
  { s with file := some (s.file.getD [] ++ written) }

/-- `remember_inner_id_at_path`. -/
def rememberInnerIdAtPath (s : InnerIds Id) (id : Id) (append : Append) : InnerIds Id × Bool :=
  let (s, newlyInserted) := withInnerIdSet f s fun set => (insert id set, decide (id ∉ set))
  if !newlyInserted then (s, false)
  else
    let rollback (s : InnerIds Id) := (withInnerIdSet f s fun set => (set.erase id, ())).1
    match append with
    | .noDir => (rollback s, false)
    | .noFile => (rollback s, false)
    | .torn written => (rollback (s.append ((f.toHex id).take written)), false)
    | .done => (s.append (f.toHex id ++ ['\n']), true)

/-! ## The ids of a file -/

variable {f}

theorem mem_idsIn {content : Text} {id : Id} :
    id ∈ idsIn f content ↔ ∃ line ∈ content.splitOn '\n', lineId f line = some id := by
  have hcr : ∀ line, lineId f (stripCr line) = lineId f line := by
    intro line
    unfold lineId
    rw [trim_stripCr]
  have hempty : lineId f [] = none := rfl
  obtain ⟨init, last, hsplit⟩ :=
    (List.eq_nil_or_concat' (content.splitOn '\n')).resolve_left (List.splitOn_ne_nil _ _)
  unfold idsIn lines
  rw [hsplit]
  simp only [List.dropLast_concat, List.getLast?_concat, List.filterMap_append, List.filterMap_map,
    List.toFinset_append, Finset.mem_union, List.mem_toFinset, List.mem_filterMap, Function.comp,
    hcr, List.mem_append, or_and_right, exists_or, List.mem_singleton, exists_eq_left]
  refine or_congr_right ?_
  by_cases hlast : last = []
  · simp [hlast, hempty]
  · simp [hlast]

/-- The ids of a content that is cut at a newline. -/
theorem mem_idsIn_append_newline {a b : Text} {id : Id} :
    id ∈ idsIn f (a ++ '\n' :: b) ↔ id ∈ idsIn f a ∨ id ∈ idsIn f b := by
  have hsplit : (a ++ '\n' :: b).splitOn '\n' = a.splitOn '\n' ++ b.splitOn '\n' :=
    List.splitOnP_append_cons a b (beq_self_eq_true '\n')
  simp only [mem_idsIn, hsplit, List.mem_append, or_and_right, exists_or]

/-- The ids of a content without newlines. -/
theorem mem_idsIn_line {line : Text} (h : '\n' ∉ line) {id : Id} :
    id ∈ idsIn f line ↔ lineId f line = some id := by
  rw [mem_idsIn, List.splitOn_eq_singleton h]
  simp

variable (f) in
/-- What is written behind a content changes its last line alone. -/
theorem exists_idsIn_append (content : Text) :
    ∃ ids : Finset Id, ∀ written, '\n' ∉ written → ∀ id,
      id ∈ idsIn f (content ++ written) ↔
        id ∈ ids ∨ lineId f (lastLine content ++ written) = some id := by
  obtain ⟨hnew, hcontent⟩ := eq_lastLine_or content
  have hline : ∀ written, '\n' ∉ written → '\n' ∉ lastLine content ++ written := by
    intro written hw hmem
    exact (List.mem_append.1 hmem).elim hnew hw
  rcases hcontent with hcontent | ⟨body, hcontent⟩
  · refine ⟨∅, fun written hw id => ?_⟩
    have hids : id ∈ idsIn f (lastLine content ++ written) ↔
        lineId f (lastLine content ++ written) = some id := mem_idsIn_line (hline written hw)
    rw [← hcontent] at hids ⊢
    rw [hids]
    simp
  · refine ⟨idsIn f body, fun written hw id => ?_⟩
    have happ : content ++ written = body ++ '\n' :: (lastLine content ++ written) := by
      conv_lhs => rw [hcontent]
      simp
    rw [happ, mem_idsIn_append_newline, mem_idsIn_line (hline written hw)]

omit [DecidableEq Id] in
theorem lineId_of_isBlank {line : Text} (h : IsBlank line) : lineId f line = none :=
  if_pos (trim_eq_nil_iff.2 h)

omit [DecidableEq Id] in
/-- Digits on a line that is blank so far. -/
theorem lineId_append_isBlank {line : Text} (h : IsBlank line) {w : Text} (hw : IsWord w) :
    lineId f (line ++ w) = f.fromStr w := by
  have hfront : line.dropWhile isWhitespace = [] := List.dropWhile_eq_nil_iff.2 h
  unfold lineId
  rw [hw.trim_append, hfront, List.nil_append, if_neg hw.ne_nil]

omit [DecidableEq Id] in
/-- Digits on a line that has been started. -/
theorem lineId_append_of_not_isBlank {line : Text} (h : ¬ IsBlank line) (id : Id) :
    lineId f (line ++ f.toHex id) = none := by
  have hfront : line.dropWhile isWhitespace ≠ [] := fun hnil => h (List.dropWhile_eq_nil_iff.1 hnil)
  unfold lineId
  rw [(f.isWord id).trim_append]
  split
  · rfl
  · exact f.longer _ id hfront

/-- A line with an id names the id, and nothing else in the file changes, where the last line is
blank so far. -/
theorem idsIn_append_line_iff {content : Text} {id : Id} (hnew : id ∉ idsIn f content) :
    insert id (idsIn f content) = idsIn f (content ++ (f.toHex id ++ ['\n'])) ↔
      IsBlank (lastLine content) := by
  obtain ⟨ids, hids⟩ := exists_idsIn_append f content
  have hold : ∀ id', id' ∈ idsIn f content ↔
      id' ∈ ids ∨ lineId f (lastLine content) = some id' := by
    intro id'
    simpa using hids [] nofun id'
  have hnow : ∀ id', id' ∈ idsIn f (content ++ (f.toHex id ++ ['\n'])) ↔
      id' ∈ ids ∨ lineId f (lastLine content ++ f.toHex id) = some id' := by
    intro id'
    have hnone : id' ∉ idsIn f [] := by
      have hblank : IsBlank [] := nofun
      rw [mem_idsIn_line List.not_mem_nil, lineId_of_isBlank hblank]
      exact nofun
    rw [← List.append_assoc, mem_idsIn_append_newline, or_iff_left hnone]
    exact hids _ (f.isWord id).isLine.noNewline id'
  constructor
  · intro heq
    by_contra hblank
    have hmem : id ∈ idsIn f (content ++ (f.toHex id ++ ['\n'])) := by
      rw [← heq]
      exact Finset.mem_insert_self _ _
    rw [hnow, lineId_append_of_not_isBlank hblank] at hmem
    exact hnew ((hold id).2 (.inl (hmem.resolve_right nofun)))
  · intro hblank
    ext id'
    rw [Finset.mem_insert, hold, hnow, lineId_of_isBlank hblank,
      lineId_append_isBlank hblank (f.isWord id), f.read id, Option.some_inj]
    simp [or_comm, eq_comm]

/-- Less than the digits of an id is none, on a line that is blank so far. -/
theorem idsIn_append_part_iff {content : Text} {id : Id} (hnew : id ∉ idsIn f content)
    (hblank : IsBlank (lastLine content)) (written : Nat) :
    idsIn f (content ++ (f.toHex id).take written) = idsIn f content ↔
      written < (f.toHex id).length := by
  obtain ⟨ids, hids⟩ := exists_idsIn_append f content
  have hold : ∀ id', id' ∈ idsIn f content ↔ id' ∈ ids := by
    intro id'
    simpa [lineId_of_isBlank hblank] using hids [] nofun id'
  have hpart : '\n' ∉ (f.toHex id).take written := fun hmem =>
    (f.isWord id).isLine.noNewline (List.mem_of_mem_take hmem)
  constructor
  · intro heq
    by_contra hlong
    rw [List.take_of_length_le (Nat.not_lt.1 hlong)] at heq
    refine hnew ?_
    rw [← heq, hids _ (f.isWord id).isLine.noNewline, lineId_append_isBlank hblank (f.isWord id)]
    exact .inr (f.read id)
  · intro hshort
    ext id'
    rw [hold, hids _ hpart]
    refine or_iff_left ?_
    by_cases hzero : (f.toHex id).take written = []
    · rw [hzero, List.append_nil, lineId_of_isBlank hblank]
      exact nofun
    · have hword : IsWord ((f.toHex id).take written) :=
        ⟨hzero, fun c hc => (f.isWord id).noSpace c (List.mem_of_mem_take hc)⟩
      rw [lineId_append_isBlank hblank hword, f.shorter id written hshort]
      exact nofun

/-! ## One call -/

variable (f) in
/-- The set that a call looks at. -/
def InnerIds.known (s : InnerIds Id) : Finset Id := s.cache.getD (loadInnerIds f s.file)

/-- The content of the file; a missing file is empty. -/
def InnerIds.content (s : InnerIds Id) : Text := s.file.getD []

variable (f) in
/-- The set of the process, once it is loaded, is the set of the file's ids. -/
def InSync (s : InnerIds Id) : Prop := ∀ set ∈ s.cache, set = loadInnerIds f s.file

theorem loadInnerIds_eq (s : InnerIds Id) : loadInnerIds f s.file = idsIn f s.content := by
  unfold InnerIds.content
  cases s.file with
  | none => rfl
  | some content => rfl

theorem inSync_loaded {set : Finset Id} {content : Text} :
    InSync f ⟨some set, some content⟩ ↔ set = idsIn f content := by
  simp [InSync, loadInnerIds]

theorem InSync.known_eq {s : InnerIds Id} (h : InSync f s) : s.known f = idsIn f s.content := by
  rw [← loadInnerIds_eq]
  unfold InnerIds.known
  cases hcache : s.cache with
  | none => rfl
  | some set => exact h set hcache

variable (f) in
/-- A call for an id that is known loads the set. -/
theorem remember_of_mem {s : InnerIds Id} {id : Id} (h : id ∈ s.known f) (append : Append) :
    rememberInnerIdAtPath f s id append = ({ s with cache := some (s.known f) }, false) := by
  have hinsert : insert id (s.known f) = s.known f := Finset.insert_eq_of_mem h
  unfold InnerIds.known at h hinsert
  simp [rememberInnerIdAtPath, withInnerIdSet, InnerIds.known, h]

variable (f) in
/-- A call for a new id: what is left in the set and in the file. -/
theorem remember_of_not_mem {s : InnerIds Id} {id : Id} (h : id ∉ s.known f) (append : Append) :
    rememberInnerIdAtPath f s id append =
      match append with
      | .noDir => ({ s with cache := some (s.known f) }, false)
      | .noFile => ({ s with cache := some (s.known f) }, false)
      | .torn written =>
        (⟨some (s.known f), some (s.content ++ (f.toHex id).take written)⟩, false)
      | .done =>
        (⟨some (insert id (s.known f)), some (s.content ++ (f.toHex id ++ ['\n']))⟩, true) := by
  have herase : (insert id (s.known f)).erase id = s.known f := Finset.erase_insert h
  unfold InnerIds.known at h herase
  cases append <;>
    simp [rememberInnerIdAtPath, withInnerIdSet, InnerIds.append, InnerIds.content, InnerIds.known,
      h, herase]

variable (f) in
/-- What an append has to leave of the file. -/
def Keeps (s : InnerIds Id) (id : Id) : Append → Prop
  | .noDir => True
  | .noFile => True
  | .torn written => idsIn f (s.content ++ (f.toHex id).take written) = idsIn f s.content
  | .done => IsBlank (lastLine s.content)

/-- A call leaves the set and the file in step exactly when its append keeps the file's ids. -/
theorem inSync_remember_iff {s : InnerIds Id} (h : InSync f s) (id : Id) (append : Append) :
    InSync f (rememberInnerIdAtPath f s id append).1 ↔ (id ∉ s.known f → Keeps f s id append) := by
  have hloaded : s.known f = loadInnerIds f s.file := by rw [h.known_eq, loadInnerIds_eq]
  by_cases hid : id ∈ s.known f
  · rw [remember_of_mem f hid]
    refine iff_of_true ?_ fun hnot => absurd hid hnot
    rintro set ⟨⟩
    exact hloaded
  · rw [remember_of_not_mem f hid, forall_prop_of_true hid]
    cases append with
    | noDir =>
      refine iff_of_true ?_ trivial
      rintro set ⟨⟩
      exact hloaded
    | noFile =>
      refine iff_of_true ?_ trivial
      rintro set ⟨⟩
      exact hloaded
    | torn written =>
      rw [inSync_loaded, h.known_eq]
      exact eq_comm
    | done =>
      rw [inSync_loaded, h.known_eq]
      rw [h.known_eq] at hid
      exact idsIn_append_line_iff hid

variable (f) in
/-- A call is answered with `true` exactly when the id is new and is appended. -/
theorem remember_snd {s : InnerIds Id} {id : Id} {append : Append} :
    (rememberInnerIdAtPath f s id append).2 = true ↔ id ∉ s.known f ∧ append = .done := by
  by_cases hid : id ∈ s.known f
  · rw [remember_of_mem f hid]
    exact iff_of_false Bool.false_ne_true fun h => h.1 hid
  · rw [remember_of_not_mem f hid]
    cases append <;> simp [hid]

variable (f) in
/-- The set has the id behind such a call, and is the same behind any other one. -/
theorem known_remember (s : InnerIds Id) (id : Id) (append : Append) :
    (rememberInnerIdAtPath f s id append).1.known f =
      if (rememberInnerIdAtPath f s id append).2 then insert id (s.known f) else s.known f := by
  by_cases hid : id ∈ s.known f
  · rw [remember_of_mem f hid]
    rfl
  · rw [remember_of_not_mem f hid]
    cases append <;> rfl

/-! ## Runs -/

/-- A call, with what the file system makes of its append. -/
structure Call (Path Id : Type) where
  path : Path
  id : Id
  append : Append
deriving DecidableEq

variable {Path : Type} [DecidableEq Path]

variable (f) in
/-- A call on the sets and the files of all paths. -/
def rememberCall (s : Path → InnerIds Id) (call : Call Path Id) : Path → InnerIds Id :=
  Function.update s call.path (rememberInnerIdAtPath f (s call.path) call.id call.append).1

/-- A process that has just been started over the files. -/
def started (files : Path → Option Text) : Path → InnerIds Id := fun path => { file := files path }

variable (f) in
/-- The paths and ids of the calls that return `true`, in order. -/
def remembered : (Path → InnerIds Id) → List (Call Path Id) → List (Path × Id)
  | _, [] => []
  | s, call :: calls =>
    if (rememberInnerIdAtPath f (s call.path) call.id call.append).2 then
      (call.path, call.id) :: remembered (rememberCall f s call) calls
    else remembered (rememberCall f s call) calls

/-- What a call adds to the known ids of all paths. -/
theorem mem_known_rememberCall {s : Path → InnerIds Id} {call : Call Path Id} {path : Path}
    {id : Id} :
    id ∈ (rememberCall f s call path).known f ↔ id ∈ (s path).known f ∨
      ((path, id) = (call.path, call.id) ∧
        (rememberInnerIdAtPath f (s call.path) call.id call.append).2 = true) := by
  unfold rememberCall
  by_cases hpath : path = call.path
  · subst hpath
    rw [Function.update_self, known_remember]
    split
    · rename_i htrue
      simp [htrue, or_comm]
    · rename_i hfalse
      simp [hfalse]
  · rw [Function.update_of_ne hpath]
    simp [hpath]

/-- The ids that are remembered are those that were not known and are appended some time. -/
theorem mem_remembered {s : Path → InnerIds Id} {calls : List (Call Path Id)} {path : Path}
    {id : Id} :
    (path, id) ∈ remembered f s calls ↔ id ∉ (s path).known f ∧
      ∃ call ∈ calls, call.path = path ∧ call.id = id ∧ call.append = .done := by
  induction calls generalizing s with
  | nil => simp [remembered]
  | cons call calls ih =>
    have hmem : (path, id) ∈ remembered f s (call :: calls) ↔
        ((path, id) = (call.path, call.id) ∧
          (rememberInnerIdAtPath f (s call.path) call.id call.append).2 = true) ∨
        (path, id) ∈ remembered f (rememberCall f s call) calls := by
      rw [remembered]
      split
      · rename_i htrue
        simp [htrue]
      · rename_i hfalse
        simp [hfalse]
    rw [hmem, ih, mem_known_rememberCall, remember_snd, List.exists_mem_cons_iff]
    by_cases hcall : (path, id) = (call.path, call.id)
    · obtain ⟨rfl, rfl⟩ := Prod.mk.inj hcall
      by_cases hdone : call.append = .done
      · simp [hdone]
      · simp [hdone]
    · have hother : ¬ (call.path = path ∧ call.id = id ∧ call.append = .done) :=
        fun h => hcall (by rw [h.1, h.2.1])
      simp only [hcall, false_and, false_or, or_false, hother]

theorem nodup_remembered (s : Path → InnerIds Id) (calls : List (Call Path Id)) :
    (remembered f s calls).Nodup := by
  induction calls generalizing s with
  | nil => exact List.nodup_nil
  | cons call calls ih =>
    rw [remembered]
    split
    · rename_i htrue
      refine List.nodup_cons.2 ⟨fun hmem => ?_, ih _⟩
      exact (mem_remembered.1 hmem).1 (mem_known_rememberCall.2 (.inr ⟨rfl, htrue⟩))
    · exact ih _

variable (f) in
/-- The condition on a call: where the id is new, the append keeps the file's ids. -/
def CallKeeps (s : Path → InnerIds Id) (call : Call Path Id) : Prop :=
  call.id ∉ (s call.path).known f → Keeps f (s call.path) call.id call.append

/-- The sets and the files of all paths stay in step exactly when the append of the call keeps the
file's ids. -/
theorem inSync_rememberCall_iff {s : Path → InnerIds Id} (h : ∀ path, InSync f (s path))
    (call : Call Path Id) :
    (∀ path, InSync f (rememberCall f s call path)) ↔ CallKeeps f s call := by
  unfold CallKeeps
  rw [← inSync_remember_iff (h call.path)]
  unfold rememberCall
  constructor
  · intro hall
    simpa using hall call.path
  · intro hcall path
    by_cases hpath : path = call.path
    · subst hpath
      rwa [Function.update_self]
    · rw [Function.update_of_ne hpath]
      exact h path

omit [DecidableEq Path] in
variable (f) in
theorem inSync_started (files : Path → Option Text) (path : Path) :
    InSync f (started files path) := nofun

variable (f) in
/-- What is asked of the calls of a process that starts over the given files. -/
structure InnerIdLaw (files : Path → Option Text) (calls : List (Call Path Id)) : Prop where
  /-- The set of every path is the set of the ids in its file, after every call. -/
  synced : ∀ before after, calls = before ++ after →
    ∀ path, InSync f (before.foldl (rememberCall f) (started files) path)
  /-- No id is remembered twice for a path, -/
  once : (remembered f (started files) calls).Nodup
  /-- and one that the file does not have is as soon as one of its appends succeeds. -/
  remembers : ∀ path id, (path, id) ∈ remembered f (started files) calls ↔
    id ∉ loadInnerIds f (files path) ∧
      ∃ call ∈ calls, call.path = path ∧ call.id = id ∧ call.append = .done

theorem innerIdLaw_of_synced {files : Path → Option Text} {calls : List (Call Path Id)}
    (h : ∀ before after, calls = before ++ after →
      ∀ path, InSync f (before.foldl (rememberCall f) (started files) path)) :
    InnerIdLaw f files calls :=
  ⟨h, nodup_remembered _ _, fun _ _ => mem_remembered⟩

/-- The sets and the files stay in step exactly when every append keeps its file's ids. -/
theorem synced_iff_guarded (files : Path → Option Text) (calls : List (Call Path Id)) :
    Run.Guarded (rememberCall f) (CallKeeps f) (started files) calls ↔
      ∀ before after, calls = before ++ after →
        ∀ path, InSync f (before.foldl (rememberCall f) (started files) path) :=
  Run.Guarded.iff_invariant (I := fun s : Path → InnerIds Id => ∀ path, InSync f (s path))
    (fun _ call hs => inSync_rememberCall_iff hs call) (inSync_started f files) calls

/-- A call whose append is whole or writes nothing leaves a blank last line of the file blank. -/
theorem isBlank_lastLine_remember {s : InnerIds Id} (h : IsBlank (lastLine s.content)) (id : Id)
    {append : Append} (hwhole : ∀ written, append = .torn written → written = 0) :
    IsBlank (lastLine (rememberInnerIdAtPath f s id append).1.content) := by
  by_cases hid : id ∈ s.known f
  · rwa [remember_of_mem f hid]
  · rw [remember_of_not_mem f hid]
    cases append with
    | noDir => exact h
    | noFile => exact h
    | torn written =>
      obtain rfl := hwhole written rfl
      simpa [InnerIds.content] using h
    | done =>
      have hline : lastLine (s.content ++ (f.toHex id ++ ['\n'])) = [] := by
        unfold lastLine
        rw [← List.append_assoc, List.rtakeWhile_concat_neg _ _ _ (by simp)]
      show IsBlank (lastLine (s.content ++ (f.toHex id ++ ['\n'])))
      rw [hline]
      exact nofun

/-- The law holds where the files end with a newline (or blanks behind it) and no append that fails
has written anything. -/
theorem innerIdLaw_of_whole {files : Path → Option Text}
    (hfiles : ∀ path, IsBlank (lastLine ((files path).getD []))) {calls : List (Call Path Id)}
    (hwhole : ∀ call ∈ calls, ∀ written, call.append = .torn written → written = 0) :
    InnerIdLaw f files calls := by
  refine innerIdLaw_of_synced ((synced_iff_guarded files calls).1 ?_)
  refine Run.Guarded.of_invariant (I := fun s => ∀ path, IsBlank (lastLine (s path).content))
    (fun s call hcall hs => ⟨fun _ => ?_, fun path => ?_⟩) hwhole hfiles
  · cases happend : call.append with
    | noDir => trivial
    | noFile => trivial
    | torn written =>
      obtain rfl := hcall written happend
      simp [Keeps]
    | done => exact hs call.path
  · unfold rememberCall
    by_cases hpath : path = call.path
    · subst hpath
      rw [Function.update_self]
      exact isBlank_lastLine_remember (hs _) call.id hcall
    · rw [Function.update_of_ne hpath]
      exact hs path

/-- On a file that ends with a newline, an append that fails keeps the ids as long as it has not
written all the digits. -/
theorem keeps_torn_iff {s : InnerIds Id} (hblank : IsBlank (lastLine s.content)) {id : Id}
    (hnew : id ∉ idsIn f s.content) (written : Nat) :
    Keeps f s id (.torn written) ↔ written < (f.toHex id).length :=
  idsIn_append_part_iff hnew hblank written

end

/-! ## An id whose newline is not written -/

/-- Ids of 32 bytes as 64 hexadecimal digits. -/
def hexIds : EventIdText (Fin (16 ^ 64)) where
  toHex id := Hex.digits 64 id
  fromStr t :=
    if t.length = 64 then (Hex.read t).bind fun n => if h : n < 16 ^ 64 then some ⟨n, h⟩ else none
    else none
  isWord id := by
    refine ⟨List.ne_nil_of_length_pos (by rw [Hex.length_digits]; omega), fun c hc => ?_⟩
    obtain ⟨d, hd, rfl⟩ := Hex.exists_digit_of_mem hc
    have hspace : ∀ d < 16, isWhitespace (Hex.digit d) = false := by decide
    exact hspace d hd
  read id := by
    rw [if_pos (Hex.length_digits 64 id), Hex.read_digits id.isLt]
    simp
  longer t id hne := by
    have hlen := List.length_pos_iff.2 hne
    rw [if_neg (by rw [List.length_append, Hex.length_digits]; omega)]
  shorter id n hn := by
    rw [Hex.length_digits] at hn
    rw [if_neg (by rw [List.length_take, Hex.length_digits]; omega)]

end Mostrix.Chat
