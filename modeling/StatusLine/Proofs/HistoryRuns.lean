import Mathlib.Data.List.Infix
import StatusLine.Proofs.Storage

/-!
# The history is a list of recent uses

A run records statuses, clears the history, and saves and loads it. `recent` follows the same run
without a limit: what is used goes to the front, and nothing falls off the end. The history is a
prefix of that list at all times, also after a limit that was smaller for a while. Under one limit
it is the longest prefix allowed, because taking an older entry away makes room for one entry at
most.
-/
namespace StatusLine.History

inductive Action
  | record (s : Status) (time : Instant) (limit : Nat)
  | clear
  | reload

structure Kept where
  history : History
  file : File

def Action.apply (k : Kept) : Action → Except Fault Kept
  | .record s time limit => .ok { k with history := k.history.record s time limit }
  | .clear => .ok { k with history := empty }
  | .reload => do
    let file ← k.history.save k.file
    return ⟨← load file, file⟩

def run (actions : List Action) (k : Kept) : Except Fault Kept := actions.foldlM Action.apply k

def Action.recall (uses : List HistoryEntry) : Action → List HistoryEntry
  | .record s time _ => ⟨s, time⟩ :: uses.filter (·.status != s)
  | .clear => []
  | .reload => uses

def recent (actions : List Action) : List HistoryEntry := actions.foldl Action.recall []

/-- What has been recorded since the history was cleared, the latest at the end. -/
def Action.collect (records : List HistoryEntry) : Action → List HistoryEntry
  | .record s time _ => records ++ [⟨s, time⟩]
  | .clear => []
  | .reload => records

def recorded (actions : List Action) : List HistoryEntry := actions.foldl Action.collect []

/-- The records of statuses that are not recorded again later. -/
def lastUses : List HistoryEntry → List HistoryEntry
  | [] => []
  | e :: es => if e.status ∈ es.map (·.status) then lastUses es else e :: lastUses es

theorem lastUses_concat (es : List HistoryEntry) (e : HistoryEntry) :
    lastUses (es ++ [e]) = (lastUses es).filter (·.status != e.status) ++ [e] := by
  induction es with
  | nil => rfl
  | cons x es ih =>
    by_cases hagain : x.status ∈ es.map (·.status)
    · have hx : x.status ∈ (es ++ [e]).map (·.status) := by
        rw [List.map_append]
        exact List.mem_append_left _ hagain
      rw [List.cons_append, lastUses, if_pos hx, lastUses, if_pos hagain, ih]
    · by_cases hsame : x.status = e.status
      · have hx : x.status ∈ (es ++ [e]).map (·.status) := by simp [hsame]
        rw [List.cons_append, lastUses, if_pos hx, lastUses, if_neg hagain, ih,
          List.filter_cons_of_neg (by simpa using hsame)]
      · have hx : ¬ x.status ∈ (es ++ [e]).map (·.status) := by
          rw [List.map_append, List.mem_append, not_or]
          exact ⟨hagain, by simpa using hsame⟩
        rw [List.cons_append, lastUses, if_neg hx, lastUses, if_neg hagain, ih,
          List.filter_cons_of_pos (by simpa using hsame), List.cons_append]

theorem recent_eq_lastUses (actions : List Action) :
    recent actions = (lastUses (recorded actions)).reverse := by
  induction actions using List.reverseRecOn with
  | nil => rfl
  | append_singleton actions a ih =>
    rw [recent, recorded, List.foldl_concat, List.foldl_concat, ← recent, ← recorded, ih]
    cases a with
    | record s time limit => simp [Action.recall, Action.collect, lastUses_concat]
    | clear => rfl
    | reload => rfl

def Action.next (h : History) : Action → History
  | .record s time limit => h.record s time limit
  | .clear => empty
  | .reload => h

theorem exists_apply {k : Kept} (hk : k.file.refusal = none) (a : Action) :
    ∃ k', a.apply k = .ok k' ∧ k'.file.refusal = none ∧ k'.history = a.next k.history := by
  cases a with
  | record s time limit => exact ⟨_, rfl, hk, rfl⟩
  | clear => exact ⟨_, rfl, hk, rfl⟩
  | reload =>
    obtain ⟨g, hsave, hg⟩ : ∃ g, k.history.save k.file = .ok g ∧ g.refusal = none := by
      have hwrite : k.file.write k.history.write = .ok (.ofBytes k.history.write.toUTF8) :=
        File.write_eq_ok.2 ⟨hk, rfl⟩
      exact ⟨_, by rw [save, hwrite], rfl⟩
    have hload : load g = .ok k.history := load_of_save hsave
    exact ⟨⟨k.history, g⟩, by simp [Action.apply, hsave, hload], hg, rfl⟩

theorem exists_run {k : Kept} (hk : k.file.refusal = none) (actions : List Action) :
    ∃ k', run actions k = .ok k' ∧ k'.history = actions.foldl Action.next k.history := by
  induction actions generalizing k with
  | nil => exact ⟨k, rfl, rfl⟩
  | cons a actions ih =>
    obtain ⟨k₁, ha, hk₁, hnext⟩ := exists_apply hk a
    obtain ⟨k₂, hrun, hhistory⟩ := ih hk₁
    refine ⟨k₂, ?_, ?_⟩
    · rw [run, List.foldlM_cons, ha]
      exact hrun
    · rw [hhistory, hnext]
      rfl

theorem prefix_next {h : History} {uses : List HistoryEntry} (hp : h.entries <+: uses)
    (a : Action) : (a.next h).entries <+: a.recall uses := by
  cases a with
  | record s time limit =>
    have hrest : h.entries.filter (·.status != s) <+: uses.filter (·.status != s) := hp.filter _
    exact (List.take_prefix limit _).trans ((List.cons_prefix_cons).2 ⟨rfl, hrest⟩)
  | clear => exact List.prefix_refl _
  | reload => exact hp

theorem prefix_foldl {h : History} {uses : List HistoryEntry} (hp : h.entries <+: uses)
    (actions : List Action) :
    (actions.foldl Action.next h).entries <+: actions.foldl Action.recall uses := by
  induction actions generalizing h uses with
  | nil => exact hp
  | cons a actions ih => exact ih (prefix_next hp a)

theorem nodup_recall {uses : List HistoryEntry} (hn : (uses.map (·.status)).Nodup) (a : Action) :
    ((a.recall uses).map (·.status)).Nodup := by
  cases a with
  | record s time limit =>
    have hsub : ((uses.filter (·.status != s)).map (·.status)).Sublist (uses.map (·.status)) :=
      List.filter_sublist.map _
    refine List.nodup_cons.2 ⟨?_, hn.sublist hsub⟩
    intro hs
    obtain ⟨e, he, rfl⟩ := List.mem_map.1 hs
    simpa using (List.mem_filter.1 he).2
  | clear => exact List.nodup_nil
  | reload => exact hn

theorem nodup_foldl {uses : List HistoryEntry} (hn : (uses.map (·.status)).Nodup)
    (actions : List Action) : ((actions.foldl Action.recall uses).map (·.status)).Nodup := by
  induction actions generalizing uses with
  | nil => exact hn
  | cons a actions ih => exact ih (nodup_recall hn a)

/-- One of the first entries at most has the status, and the entry after them takes its place. -/
theorem take_filter_take {uses : List HistoryEntry} (hn : (uses.map (·.status)).Nodup) (s : Status)
    (n : Nat) :
    ((uses.take (n + 1)).filter (·.status != s)).take n =
      (uses.filter (·.status != s)).take n := by
  induction uses generalizing n with
  | nil => simp
  | cons e uses ih =>
    obtain ⟨hfresh, hn⟩ : e.status ∉ uses.map (·.status) ∧ (uses.map (·.status)).Nodup :=
      List.nodup_cons.1 hn
    rw [List.take_succ_cons]
    by_cases hs : e.status = s
    · have hkept : ∀ x ∈ uses, (x.status != s) = true := by
        intro x hx
        have hmem : x.status ∈ uses.map (·.status) := List.mem_map_of_mem hx
        have hne : x.status ≠ s := by
          intro heq
          subst heq
          exact hfresh (by rwa [hs])
        simpa using hne
      have htake : (uses.take n).filter (·.status != s) = uses.take n :=
        List.filter_eq_self.2 fun x hx => hkept x (List.mem_of_mem_take hx)
      rw [List.filter_cons_of_neg (by simpa using hs), List.filter_cons_of_neg (by simpa using hs),
        htake, List.filter_eq_self.2 hkept, List.take_take, Nat.min_self]
    · rw [List.filter_cons_of_pos (by simpa using hs), List.filter_cons_of_pos (by simpa using hs)]
      cases n with
      | zero => rfl
      | succ n => rw [List.take_succ_cons, List.take_succ_cons, ih hn]

theorem take_next {h : History} {uses : List HistoryEntry} {limit : Nat}
    (hn : (uses.map (·.status)).Nodup) (hh : h.entries = uses.take limit) {a : Action}
    (ha : ∀ s time l, a = .record s time l → l = limit) :
    (a.next h).entries = (a.recall uses).take limit := by
  cases a with
  | record s time l =>
    obtain rfl := ha s time l rfl
    simp only [Action.next, Action.recall, record, hh]
    cases l with
    | zero => rfl
    | succ n => rw [List.take_succ_cons, List.take_succ_cons, take_filter_take hn]
  | clear => simp [Action.next, Action.recall, empty]
  | reload => exact hh

theorem take_foldl {h : History} {uses : List HistoryEntry} {limit : Nat}
    (hn : (uses.map (·.status)).Nodup) (hh : h.entries = uses.take limit) {actions : List Action}
    (ha : ∀ s time l, .record s time l ∈ actions → l = limit) :
    (actions.foldl Action.next h).entries = (actions.foldl Action.recall uses).take limit := by
  induction actions generalizing h uses with
  | nil => exact hh
  | cons a actions ih =>
    have hstep : (a.next h).entries = (a.recall uses).take limit :=
      take_next hn hh fun s time l hl => ha s time l (hl ▸ List.mem_cons_self)
    exact ih (nodup_recall hn a) hstep fun s time l hl => ha s time l (List.mem_cons_of_mem a hl)

/-- Every run from the empty history succeeds while its file can be written, and keeps a prefix of
the recent uses. -/
theorem run_keeps_recent (actions : List Action) (entry : Entry) :
    ∃ k, run actions ⟨empty, ⟨entry, none⟩⟩ = .ok k ∧
      k.history.entries <+: recent actions ∧
      recent actions = (lastUses (recorded actions)).reverse ∧
      (k.history.entries.map (·.status)).Nodup ∧
      (∀ earlier s time limit, actions = earlier ++ [.record s time limit] →
        k.history.entries.length ≤ limit ∧
          (1 ≤ limit → k.history.entries.head? = some ⟨s, time⟩)) ∧
      ∀ limit, (∀ s time l, .record s time l ∈ actions → l = limit) →
        k.history.entries = (recent actions).take limit := by
  have hfile : (Kept.mk empty ⟨entry, none⟩).file.refusal = none := rfl
  obtain ⟨k, hrun, hk⟩ := exists_run hfile actions
  have hnil : (([] : List HistoryEntry).map (·.status)).Nodup := List.nodup_nil
  have hfront : k.history.entries <+: recent actions := by
    rw [hk]
    exact prefix_foldl (List.prefix_refl _) actions
  have hnodup : ((recent actions).map (·.status)).Nodup := nodup_foldl hnil actions
  refine ⟨k, hrun, hfront, recent_eq_lastUses actions,
    hnodup.sublist (hfront.sublist.map _), ?_, ?_⟩
  · intro earlier s time limit heq
    subst heq
    rw [List.foldl_concat] at hk
    rw [hk]
    exact ⟨length_record_le _ s time limit, fun hl => latest?_record _ s time hl⟩
  · intro limit hl
    rw [hk]
    exact take_foldl hnil (by simp [empty]) hl

end StatusLine.History
