import Mathlib.Data.Finset.Max
import Mathlib.Data.List.Forall2
import LedgerEvm.Machine.Ruleset
import LedgerEvm.Proofs.Actions

namespace LedgerEvm

/-!
# Timelines and the tables they are made of

A version table makes a timeline exactly when it is in order.  Whatever the instant and the
hint are, the timeline then gives the ruleset of the one entry of the table that counts,
which is said here by looking through the table and not by halving.
-/

/-- The table's versions come into force one after the other. -/
def VersionEntry.AreIncreasing (table : List VersionEntry) : Prop :=
  table.Pairwise fun earlier later => earlier.effective.nanos < later.effective.nanos

/-- A row of a timeline has the instant of a table entry and the ruleset of its version. -/
structure VersionEntry.Reads (entry : VersionEntry) (row : Timestamp × Ruleset) : Prop where
  instant : row.1 = entry.effective
  rules : Ruleset.ofVersion? entry.version = some row.2

/--
The entry of a table that counts at an instant: one of the hinted version where the table
has the version, else the one that has come into force last, else the first one.
-/
inductive VersionEntry.Counts
    (table : List VersionEntry)
    (instant : Timestamp)
    (hint : Option SemanticVersion) :
    VersionEntry → Prop where
  | hinted
      {entry : VersionEntry}
      (member : entry ∈ table)
      (same : hint = some entry.version) :
      Counts table instant hint entry
  | inForce
      {entry : VersionEntry}
      (unhinted : ∀ other ∈ table, hint ≠ some other.version)
      (member : entry ∈ table)
      (since : entry.effective.nanos ≤ instant.nanos)
      (last :
        ∀ other ∈ table,
          other.effective.nanos ≤ instant.nanos →
          other.effective.nanos ≤ entry.effective.nanos) :
      Counts table instant hint entry
  | first
      {entry : VersionEntry}
      {later : List VersionEntry}
      (unhinted : ∀ other ∈ table, hint ≠ some other.version)
      (early : ∀ other ∈ table, instant.nanos < other.effective.nanos)
      (leads : table = entry :: later) :
      Counts table instant hint entry

namespace Timeline

variable
  {table : List VersionEntry}
  {timeline : Timeline}
  {instant : Timestamp}

/-! ## Reading tables -/

theorem readEntry_eq_ok_iff
    {previous : Option Timestamp}
    {entry : VersionEntry}
    {row : Timestamp × Ruleset} :
    readEntry previous entry = .ok row ↔
      (∀ earlier ∈ previous, earlier.nanos < entry.effective.nanos) ∧ entry.Reads row := by
  have ordered :
      (previous.any fun earlier => entry.effective.nanos ≤ earlier.nanos) = false ↔
        ∀ earlier ∈ previous, earlier.nanos < entry.effective.nanos := by
    cases previous <;> simp [Int64.not_le]
  unfold readEntry
  constructor
  · intro read
    split at read
    · cases read
    · rename_i inOrder
      split at read
      · rename_i rules known
        cases read
        exact ⟨ordered.mp (by simpa using inOrder), rfl, known⟩
      · cases read
  · rintro ⟨inOrder, same, known⟩
    rw [if_neg (by simpa using ordered.mpr inOrder), known, ← same]

/-- A table is read when it is in order, and is read entry by entry. -/
theorem readEntries_eq_ok_iff
    {previous : Option Timestamp}
    {rows : List (Timestamp × Ruleset)} :
    readEntries previous table = .ok rows ↔
      (∀ earlier ∈ previous, ∀ entry ∈ table, earlier.nanos < entry.effective.nanos) ∧
        VersionEntry.AreIncreasing table ∧ List.Forall₂ VersionEntry.Reads table rows := by
  induction table generalizing previous rows with
  | nil =>
      simp [readEntries, VersionEntry.AreIncreasing, eq_comm]
  | cons entry rest inductionHypothesis =>
      constructor
      · intro read
        obtain ⟨row, readFirst, read⟩ := exists_of_bind_eq_ok read
        obtain ⟨rows, readRest, read⟩ := exists_of_bind_eq_ok read
        cases read
        obtain ⟨after, reads⟩ := readEntry_eq_ok_iff.mp readFirst
        obtain ⟨later, increasing, readsRest⟩ := inductionHypothesis.mp readRest
        have later := later entry.effective rfl
        refine ⟨fun earlier isPrevious other member => ?_, .cons later increasing,
          .cons reads readsRest⟩
        rcases List.mem_cons.mp member with rfl | member
        · exact after earlier isPrevious
        · exact Int64.lt_trans (after earlier isPrevious) (later other member)
      · rintro ⟨after, increasing, reads⟩
        obtain ⟨later, increasing⟩ := List.pairwise_cons.mp increasing
        cases reads with
        | @cons _ row _ rows reads readsRest =>
            have readFirst : readEntry previous entry = .ok row :=
              readEntry_eq_ok_iff.mpr
                ⟨fun earlier isPrevious => after earlier isPrevious entry List.mem_cons_self,
                  reads⟩
            have readRest : readEntries (some entry.effective) rest = .ok rows := by
              refine inductionHypothesis.mpr ⟨fun earlier same => ?_, increasing, readsRest⟩
              cases same
              exact later
            rw [readEntries, readFirst]
            dsimp only [bind, Except.bind]
            rw [readRest]
            rfl

theorem ofTable_eq_ok_iff :
    ofTable table = .ok timeline ↔
      VersionEntry.AreIncreasing table ∧
        List.Forall₂ VersionEntry.Reads table timeline.entries := by
  have reads := @readEntries_eq_ok_iff table none timeline.entries
  simp only [Option.mem_def, reduceCtorEq, false_implies, implies_true, true_and] at reads
  rw [← reads]
  unfold ofTable entries
  cases readEntries none table with
  | error error => exact ⟨nofun, nofun⟩
  | ok rows =>
      cases rows with
      | nil => exact ⟨nofun, nofun⟩
      | cons first later =>
          obtain ⟨first', later'⟩ := timeline
          simp [bind, Except.bind, pure, Except.pure]

theorem exists_row_of_mem
    {rows : List (Timestamp × Ruleset)}
    (reads : List.Forall₂ VersionEntry.Reads table rows)
    {entry : VersionEntry}
    (member : entry ∈ table) :
    ∃ row ∈ rows, entry.Reads row := by
  obtain ⟨place, inside, rfl⟩ := List.mem_iff_getElem.mp member
  exact ⟨_, List.getElem_mem (reads.length_eq ▸ inside), reads.get inside _⟩

theorem exists_entry_of_mem
    {rows : List (Timestamp × Ruleset)}
    (reads : List.Forall₂ VersionEntry.Reads table rows)
    {row : Timestamp × Ruleset}
    (member : row ∈ rows) :
    ∃ entry ∈ table, entry.Reads row := by
  obtain ⟨place, inside, rfl⟩ := List.mem_iff_getElem.mp member
  exact ⟨_, List.getElem_mem (reads.length_eq ▸ inside), reads.get _ inside⟩

/-- The rows of a table come into force as its entries do. -/
theorem increasing_of_reads
    {rows : List (Timestamp × Ruleset)}
    (reads : List.Forall₂ VersionEntry.Reads table rows)
    (increasing : VersionEntry.AreIncreasing table) :
    rows.Pairwise fun earlier later => earlier.1.nanos < later.1.nanos := by
  refine List.pairwise_iff_getElem.mpr fun place place' inside inside' before => ?_
  have length := reads.length_eq
  have read : table[place].Reads rows[place] := reads.get (by omega) inside
  have read' : table[place'].Reads rows[place'] := reads.get (by omega) inside'
  rw [read.instant, read'.instant]
  exact List.pairwise_iff_getElem.mp increasing place place' _ _ before

/-- Where each entry has a ruleset the table can be read entry by entry. -/
theorem exists_rows
    (known : ∀ entry ∈ table, (Ruleset.ofVersion? entry.version).isSome) :
    ∃ rows, List.Forall₂ VersionEntry.Reads table rows := by
  induction table with
  | nil => exact ⟨[], .nil⟩
  | cons entry rest inductionHypothesis =>
      obtain ⟨rules, found⟩ := Option.isSome_iff_exists.mp (known entry List.mem_cons_self)
      obtain ⟨rows, reads⟩ :=
        inductionHypothesis fun other member => known other (List.mem_cons_of_mem _ member)
      exact ⟨(entry.effective, rules) :: rows, .cons ⟨rfl, found⟩ reads⟩

theorem exists_ofTable_iff :
    (∃ timeline, ofTable table = .ok timeline) ↔
      table ≠ [] ∧ VersionEntry.AreIncreasing table ∧
        ∀ entry ∈ table, (Ruleset.ofVersion? entry.version).isSome := by
  constructor
  · rintro ⟨timeline, built⟩
    obtain ⟨increasing, reads⟩ := ofTable_eq_ok_iff.mp built
    refine ⟨?_, increasing, fun entry member => ?_⟩
    · rintro rfl
      cases reads
    · obtain ⟨row, _, _, rules⟩ := exists_row_of_mem reads member
      exact Option.isSome_iff_exists.mpr ⟨row.2, rules⟩
  · rintro ⟨some, increasing, known⟩
    obtain ⟨rows, reads⟩ := exists_rows known
    cases reads with
    | nil => exact (some rfl).elim
    | @cons entry row rest rows reads readsRest =>
        exact ⟨⟨row, rows⟩, ofTable_eq_ok_iff.mpr ⟨increasing, .cons reads readsRest⟩⟩

/-! ## Halving -/

/--
Halving counts what has come into force: all before the count and none from it on, if that
is known of all outside the places that are looked at.
-/
theorem inForce_iff_lt_countInForce
    (instant : Timestamp)
    {entries : List (Timestamp × Ruleset)}
    (increasing : entries.Pairwise fun earlier later => earlier.1.nanos < later.1.nanos)
    {low high : Nat}
    (ordered : low ≤ high)
    (within : high ≤ entries.length)
    (before : ∀ place (inside : place < entries.length),
      place < low → entries[place].1.nanos ≤ instant.nanos)
    (after : ∀ place (inside : place < entries.length),
      high ≤ place → instant.nanos < entries[place].1.nanos)
    (place : Nat)
    (inside : place < entries.length) :
    entries[place].1.nanos ≤ instant.nanos ↔
      place < countInForce entries instant low high within := by
  have sorted := List.pairwise_iff_getElem.mp increasing
  fun_induction countInForce entries instant low high within with
  | case1 low high within isOpen middle middleInside inForce rest =>
      refine rest (by omega) (fun other otherInside earlier => ?_) after
      rcases Nat.lt_succ_iff_lt_or_eq.mp earlier with earlier | rfl
      · exact Int64.le_trans
          (Int64.le_of_lt (sorted other middle otherInside middleInside earlier)) inForce
      · exact inForce
  | case2 low high within isOpen middle middleInside late rest =>
      refine rest (by omega) before fun other otherInside later => ?_
      have late := Int64.not_le.mp late
      rcases Nat.lt_or_eq_of_le later with later | rfl
      · exact Int64.lt_trans late (sorted middle other middleInside otherInside later)
      · exact late
  | case3 low high within isClosed =>
      have closed : low = high := by omega
      constructor
      · intro inForce
        by_contra notBefore
        exact Int64.not_le.mpr (after place inside (by omega)) inForce
      · exact before place inside

theorem atTime_of_counted
    (instant : Timestamp)
    (increasing :
      timeline.entries.Pairwise fun earlier later => earlier.1.nanos < later.1.nanos) :
    (∀ row ∈ timeline.entries,
        row.1.nanos ≤ instant.nanos →
        (∀ other ∈ timeline.entries,
          other.1.nanos ≤ instant.nanos → other.1.nanos ≤ row.1.nanos) →
        timeline.atTime instant = row.2) ∧
      ((∀ row ∈ timeline.entries, instant.nanos < row.1.nanos) →
        timeline.atTime instant = timeline.first.2) := by
  have counts (place : Nat) (inside : place < timeline.entries.length) :=
    inForce_iff_lt_countInForce instant increasing (Nat.zero_le _)
      (Nat.le_refl _) (fun _ _ impossible => by omega) (fun _ _ _ => by omega) place inside
  have within :=
    countInForce_le timeline.entries instant (Nat.zero_le _) (Nat.le_refl _)
  have sorted := List.pairwise_iff_getElem.mp increasing
  constructor
  · intro row member since last
    obtain ⟨place, inside, rfl⟩ := List.mem_iff_getElem.mp member
    have counted := (counts place inside).mp since
    -- the last place that is counted is this one, or its ruleset would have come later
    have same : timeline.placeAt instant = place := by
      unfold placeAt
      by_contra different
      let final := countInForce timeline.entries instant 0 timeline.entries.length
        (Nat.le_refl _) - 1
      have finalInside : final < timeline.entries.length := by omega
      have inForce := (counts final finalInside).mpr (by omega)
      have later := sorted place final inside finalInside (by omega)
      exact Int64.not_le.mpr later (last _ (List.getElem_mem finalInside) inForce)
    simp only [atTime, same, List.get_eq_getElem]
  · intro early
    have nothing :
        countInForce timeline.entries instant 0 timeline.entries.length (Nat.le_refl _) = 0 := by
      by_contra some
      have firstInside : 0 < timeline.entries.length := Nat.succ_pos _
      have inForce := (counts 0 firstInside).mpr (Nat.pos_of_ne_zero some)
      exact Int64.not_le.mpr (early _ (List.getElem_mem firstInside)) inForce
    have same : timeline.placeAt instant = 0 := by
      rw [placeAt, nothing]
    simp only [atTime, same, List.get_eq_getElem]
    rfl

/-! ## The entry that counts -/

/-- Of the versions that have come into force one has done so last. -/
theorem exists_last
    (some : ∃ entry ∈ table, entry.effective.nanos ≤ instant.nanos) :
    ∃ entry ∈ table,
      entry.effective.nanos ≤ instant.nanos ∧
        ∀ other ∈ table,
          other.effective.nanos ≤ instant.nanos →
          other.effective.nanos ≤ entry.effective.nanos := by
  let inForce := table.toFinset.filter fun entry => entry.effective.nanos ≤ instant.nanos
  have nonempty : inForce.Nonempty := by
    obtain ⟨entry, member, since⟩ := some
    exact ⟨entry, by simp [inForce, member, since]⟩
  obtain ⟨entry, member, last⟩ :=
    inForce.exists_max_image (fun entry => entry.effective.nanos.toInt) nonempty
  simp only [inForce, Finset.mem_filter, List.mem_toFinset] at member last
  refine ⟨entry, member.1, member.2, fun other among since => ?_⟩
  exact Int64.le_iff_toInt_le.mpr (last other ⟨among, since⟩)

/-- In a table that is not empty an entry counts. -/
theorem exists_counts
    (some : table ≠ [])
    (instant : Timestamp)
    (hint : Option SemanticVersion) :
    ∃ entry, VersionEntry.Counts table instant hint entry := by
  by_cases hinted : ∃ entry ∈ table, hint = Option.some entry.version
  · obtain ⟨entry, member, same⟩ := hinted
    exact ⟨entry, .hinted member same⟩
  · have unhinted (other : VersionEntry) (member : other ∈ table) :
        hint ≠ Option.some other.version :=
      fun same => hinted ⟨other, member, same⟩
    by_cases inForce : ∃ entry ∈ table, entry.effective.nanos ≤ instant.nanos
    · obtain ⟨entry, member, since, last⟩ := exists_last inForce
      exact ⟨entry, .inForce unhinted member since last⟩
    · obtain ⟨entry, later, leads⟩ := List.exists_cons_of_ne_nil some
      refine ⟨entry, .first unhinted (fun other member => Int64.not_le.mp fun since => ?_) leads⟩
      exact inForce ⟨other, member, since⟩

/-- A version has its own ruleset, however often the table has it. -/
theorem get?_of_mem
    (reads : List.Forall₂ VersionEntry.Reads table timeline.entries)
    {entry : VersionEntry}
    (member : entry ∈ table) :
    timeline.get? entry.version = Ruleset.ofVersion? entry.version := by
  unfold get?
  cases found : timeline.entries.find? fun row => row.2.version == entry.version with
  | none =>
      obtain ⟨row, rowMember, read⟩ := exists_row_of_mem reads member
      have other := List.find?_eq_none.mp found row rowMember
      simp [Ruleset.version_of_ofVersion? read.rules] at other
  | some row =>
      have same : row.2.version = entry.version := by simpa using List.find?_some found
      obtain ⟨source, _, read⟩ := exists_entry_of_mem reads (List.mem_of_find?_eq_some found)
      rw [← same, Ruleset.version_of_ofVersion? read.rules]
      exact read.rules.symm

theorem get?_of_not_mem
    (reads : List.Forall₂ VersionEntry.Reads table timeline.entries)
    {version : SemanticVersion}
    (absent : ∀ entry ∈ table, entry.version ≠ version) :
    timeline.get? version = none := by
  rw [get?, Option.map_eq_none_iff, List.find?_eq_none]
  intro row rowMember
  obtain ⟨entry, member, read⟩ := exists_entry_of_mem reads rowMember
  simpa [Ruleset.version_of_ofVersion? read.rules] using absent entry member

theorem resolve_of_unhinted
    (reads : List.Forall₂ VersionEntry.Reads table timeline.entries)
    {hint : Option SemanticVersion}
    (unhinted : ∀ entry ∈ table, hint ≠ some entry.version) :
    timeline.resolve instant hint = timeline.atTime instant := by
  have nothing : hint.bind timeline.get? = none := by
    cases hint with
    | none => rfl
    | some version =>
        exact get?_of_not_mem reads fun entry member same => unhinted entry member (same ▸ rfl)
  rw [resolve, nothing]

/-- What a timeline gives is the ruleset of the entry that counts. -/
theorem resolve_of_counts
    (increasing : VersionEntry.AreIncreasing table)
    (reads : List.Forall₂ VersionEntry.Reads table timeline.entries)
    {hint : Option SemanticVersion}
    {entry : VersionEntry}
    (counts : VersionEntry.Counts table instant hint entry) :
    Ruleset.ofVersion? entry.version = some (timeline.resolve instant hint) := by
  obtain ⟨ofLast, ofFirst⟩ :=
    atTime_of_counted instant (increasing_of_reads reads increasing)
  cases counts with
  | hinted member same =>
      obtain ⟨row, _, read⟩ := exists_row_of_mem reads member
      have known := (get?_of_mem reads member).trans read.rules
      subst same
      rw [resolve, Option.bind_some, known]
      exact read.rules
  | inForce unhinted member since last =>
      obtain ⟨row, rowMember, read⟩ := exists_row_of_mem reads member
      rw [resolve_of_unhinted reads unhinted, ofLast row rowMember (read.instant ▸ since), read.rules]
      intro other otherMember otherSince
      obtain ⟨source, sourceMember, otherRead⟩ := exists_entry_of_mem reads otherMember
      rw [read.instant, otherRead.instant]
      exact last source sourceMember (otherRead.instant ▸ otherSince)
  | first unhinted early leads =>
      subst leads
      have firstRead : entry.Reads timeline.first := (List.forall₂_cons.mp reads).1
      rw [resolve_of_unhinted reads unhinted, ofFirst, firstRead.rules]
      intro row rowMember
      obtain ⟨source, sourceMember, read⟩ := exists_entry_of_mem reads rowMember
      rw [read.instant]
      exact early source sourceMember

/--
A table makes a timeline exactly when it is not empty, its versions come into force one
after the other and all of them have rulesets.  The timeline then gives, for every instant
and hint, the ruleset of the entry that counts, and looks no further than its last place.
-/
theorem resolve_of_table
    (table : List VersionEntry) :
    ((∃ timeline, ofTable table = .ok timeline) ↔
        table ≠ [] ∧ VersionEntry.AreIncreasing table ∧
          ∀ entry ∈ table, (Ruleset.ofVersion? entry.version).isSome) ∧
      ∀ timeline,
        ofTable table = .ok timeline →
        ∀ instant hint,
          timeline.placeAt instant < timeline.entries.length ∧
            (∃ entry, VersionEntry.Counts table instant hint entry) ∧
            ∀ entry,
              VersionEntry.Counts table instant hint entry →
              Ruleset.ofVersion? entry.version = some (timeline.resolve instant hint) := by
  refine ⟨exists_ofTable_iff, fun timeline built instant hint => ?_⟩
  obtain ⟨increasing, reads⟩ := ofTable_eq_ok_iff.mp built
  have nonempty := (exists_ofTable_iff.mp ⟨timeline, built⟩).1
  exact ⟨timeline.placeAt_lt instant, exists_counts nonempty instant hint,
    fun _ => resolve_of_counts increasing reads⟩

/--
Around the instant from which the second version of a table is in force, one version being
listed twice and the first coming into force before the epoch.
-/
theorem resolve_at_boundaries :
    let table : List VersionEntry :=
      [⟨⟨0, 46, 0⟩, ⟨-5⟩⟩, ⟨⟨0, 50, 3⟩, ⟨10⟩⟩, ⟨⟨0, 46, 0⟩, ⟨20⟩⟩]
    ∃ timeline,
      ofTable table = .ok timeline ∧
        (timeline.resolve ⟨-6⟩ none).version = ⟨0, 46, 0⟩ ∧
        (timeline.resolve ⟨9⟩ none).version = ⟨0, 46, 0⟩ ∧
        (timeline.resolve ⟨10⟩ none).version = ⟨0, 50, 3⟩ ∧
        (timeline.resolve ⟨20⟩ (some ⟨0, 50, 0⟩)).version = ⟨0, 46, 0⟩ ∧
        (timeline.resolve ⟨20⟩ (some ⟨0, 50, 3⟩)).version = ⟨0, 50, 3⟩ := by
  intro table
  obtain ⟨builds, resolves⟩ := resolve_of_table table
  obtain ⟨timeline, built⟩ :=
    builds.mpr ⟨by decide, by simp [VersionEntry.AreIncreasing, table], by decide⟩
  have resolved {instant : Timestamp} {hint : Option SemanticVersion}
      (entry : VersionEntry)
      (counts : VersionEntry.Counts table instant hint entry) :
      (timeline.resolve instant hint).version = entry.version :=
    Ruleset.version_of_ofVersion? ((resolves timeline built instant hint).2.2 entry counts)
  refine ⟨timeline, built, ?_, ?_, ?_, ?_, ?_⟩
  · exact resolved table[0] (.first (by decide) (by decide) rfl)
  · exact resolved table[0] (.inForce (by decide) (by decide) (by decide) (by decide))
  · exact resolved table[1] (.inForce (by decide) (by decide) (by decide) (by decide))
  · exact resolved table[2] (.inForce (by decide) (by decide) (by decide) (by decide))
  · exact resolved table[1] (.hinted (by decide) rfl)

end Timeline

end LedgerEvm
