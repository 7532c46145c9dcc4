import Mathlib.Data.Set.Insert

/-! A log of insertions into a set and erasures from it. A key's last change in
a log decides whether it is held, so replaying a part of the log that a
snapshot already contains changes nothing: the suffix from any earlier point
brings any later snapshot up to date. -/
namespace OpenSovd.Support.ChangeLog

inductive Change (α : Type) where
  | add (key : α)
  | erase (key : α)

variable {α : Type}

def Change.key : Change α → α
  | .add key => key
  | .erase key => key

def Change.apply : Change α → Set α → Set α
  | .add key, held => insert key held
  | .erase key, held => held \ {key}

/-- Apply the changes of a log in order. -/
def replay (log : List (Change α)) (held : Set α) : Set α :=
  log.foldl (fun held change => change.apply held) held

@[simp] theorem replay_nil (held : Set α) : replay [] held = held := rfl

theorem replay_cons (change : Change α) (log : List (Change α)) (held : Set α) :
    replay (change :: log) held = replay log (change.apply held) := rfl

theorem replay_append (front back : List (Change α)) (held : Set α) :
    replay (front ++ back) held = replay back (replay front held) :=
  List.foldl_append

theorem replay_append_singleton (log : List (Change α)) (change : Change α) (held : Set α) :
    replay (log ++ [change]) held = change.apply (replay log held) :=
  replay_append log [change] held

/-- A change decides its own key and no other. -/
theorem mem_apply_congr {change : Change α} {probe : α} {left right : Set α}
    (agree : change.key = probe ∨ (probe ∈ left ↔ probe ∈ right)) :
    probe ∈ change.apply left ↔ probe ∈ change.apply right := by
  cases change with
  | add key =>
    simp only [Change.apply, Set.mem_insert_iff]
    rcases agree with rfl | same
    · simp [Change.key]
    · rw [same]
  | erase key =>
    simp only [Change.apply, Set.mem_sdiff, Set.mem_singleton_iff]
    rcases agree with rfl | same
    · simp [Change.key]
    · rw [same]

theorem mem_replay_congr {log : List (Change α)} {probe : α} {left right : Set α}
    (agree : (∃ change ∈ log, change.key = probe) ∨ (probe ∈ left ↔ probe ∈ right)) :
    probe ∈ replay log left ↔ probe ∈ replay log right := by
  induction log generalizing left right with
  | nil => simpa using agree
  | cons change log ih =>
    rw [replay_cons, replay_cons]
    apply ih
    rcases agree with ⟨touching, member, same⟩ | same
    · rcases List.mem_cons.mp member with rfl | later
      · exact Or.inr (mem_apply_congr (Or.inl same))
      · exact Or.inl ⟨touching, later, same⟩
    · exact Or.inr (mem_apply_congr (Or.inr same))

theorem mem_apply_of_other {change : Change α} {probe : α} {held : Set α}
    (other : change.key ≠ probe) : probe ∈ change.apply held ↔ probe ∈ held := by
  cases change with
  | add key => simp [Change.apply, Ne.symm (show key ≠ probe from other)]
  | erase key => simp [Change.apply, Ne.symm (show key ≠ probe from other)]

/-- A key no change of the log is about keeps its state. -/
theorem mem_replay_of_untouched {log : List (Change α)} {probe : α} {held : Set α}
    (untouched : ∀ change ∈ log, change.key ≠ probe) : probe ∈ replay log held ↔ probe ∈ held := by
  induction log generalizing held with
  | nil => rfl
  | cons change log ih =>
    rw [replay_cons, ih fun later member => untouched later (List.mem_cons_of_mem _ member)]
    exact mem_apply_of_other (untouched change List.mem_cons_self)

/-- Replaying a log a second time changes nothing. -/
theorem replay_twice (log : List (Change α)) (held : Set α) :
    replay log (replay log held) = replay log held := by
  ext probe
  by_cases touched : ∃ change ∈ log, change.key = probe
  · exact mem_replay_congr (Or.inl touched)
  · refine mem_replay_of_untouched fun change member same => touched ⟨change, member, same⟩

/-- **A suffix brings a later snapshot up to date**: what the snapshot already
contains may be replayed onto it again. -/
theorem replay_suffix_onto_snapshot (seen overlap later : List (Change α)) (held : Set α) :
    replay (overlap ++ later) (replay (seen ++ overlap) held) =
      replay (seen ++ overlap ++ later) held := by
  simp only [replay_append, replay_twice]

/-- Every erasure of the log is of a key held at that point. -/
def ErasesHeld (log : List (Change α)) (held : Set α) : Prop :=
  ∀ before key after, log = before ++ .erase key :: after → key ∈ replay before held

theorem erasesHeld_nil (held : Set α) : ErasesHeld [] held := by
  intro before key after shape
  simp at shape

theorem erasesHeld_of_append {front back : List (Change α)} {held : Set α}
    (justified : ErasesHeld (front ++ back) held) : ErasesHeld front held :=
  fun before key after shape => justified before key (after ++ back) (by simp [shape])

/-- A log may be extended by an insertion, or by erasing a held key. -/
theorem erasesHeld_append_singleton {log : List (Change α)} {change : Change α} {held : Set α}
    (justified : ErasesHeld log held)
    (next : ∀ key, change = .erase key → key ∈ replay log held) :
    ErasesHeld (log ++ [change]) held := by
  intro before key after shape
  rcases List.eq_nil_or_concat after with rfl | ⟨rest, final, rfl⟩
  · obtain ⟨rfl, same⟩ := List.append_inj' shape rfl
    exact next key (List.cons.inj same).1
  · rw [List.concat_eq_append, ← List.cons_append, ← List.append_assoc] at shape
    exact justified before key rest (List.append_inj' shape rfl).1

end OpenSovd.Support.ChangeLog
