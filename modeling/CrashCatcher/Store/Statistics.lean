import CrashCatcher.Lib.Tally
import CrashCatcher.Store.Chores
import CrashCatcher.Wire.Response

namespace CrashCatcher.Store
open Lib Model Fallible
open Wire.Rpc (Stats KindCount PackageCount ExceptionCount TrendBucket)

def defaultTrendBuckets : Int := 24

/-- The rows of a time window, which holds its start and not its end. -/
def Database.window (db : Database) (fromMs toMs : I64) : List RecordRow :=
  db.records.rows.filter fun row => fromMs ≤ row.happenedAtMs && row.happenedAtMs < toMs

def Database.timesIn (db : Database) (fromMs toMs : I64) : List I64 :=
  (db.window fromMs toMs).map (·.happenedAtMs)

def Database.groupsOf (db : Database) (rows : List RecordRow) : List GroupSummary :=
  rows.filterMap fun row => db.groups.find? row.groupId

/-- `SELECT key, COUNT(*) … GROUP BY key ORDER BY COUNT(*) DESC, key`. -/
def mostFrequent {κ : Type} [DecidableEq κ] (le : κ → κ → Bool) (keys : List κ) : List (κ × Nat) :=
  (tally le keys).mergeSort fun a b => decide (b.2 ≤ a.2)

/-- `SELECT MIN(happened_at_ms), MAX(happened_at_ms)`. -/
def bounds (times : List I64) : Option (I64 × I64) := do
  let start ← times.min?
  let end_ ← times.max?
  pure (start, end_)

def trendWidth (start end_ bucketMs : I64) : I64 :=
  let span := max (I64.wrap (end_.val - start.val)) 1
  if bucketMs > 0 then bucketMs else max (I64.wrap (span.val.tdiv defaultTrendBuckets)) 1

/-- `(happened_at_ms - ?3) / ?4`, which is no integer when the difference is none. -/
def bucketIndex (start width happenedAtMs : I64) : Option Int :=
  (I64.ofInt? (happenedAtMs.val - start.val)).map fun offset => offset.val.tdiv width.val

def trendBuckets (start width : I64) (indexes : List Int) : List TrendBucket :=
  (tally (fun a b => decide (a ≤ b)) indexes).map fun entry =>
    { fromMs := I64.wrap (start.val + entry.1 * width.val), count := entry.2 }

def trend (fromMs toMs bucketMs : I64) : StoreM (List TrendBucket) := do
  let range ← query fun db => bounds (db.timesIn fromMs toMs)
  match range with
  | none => pure []
  | some (start, end_) =>
      let width := trendWidth start end_ bucketMs
      let indexes ← query fun db => (db.timesIn fromMs toMs).mapM (bucketIndex start width)
      match indexes with
      | none => fail .sqlite
      | some indexes => pure (trendBuckets start width indexes)

/-- A kind that is not known is left out. -/
def kindCounts (groups : List GroupSummary) : List KindCount :=
  (mostFrequent (fun a b => decide (a ≤ b)) (groups.map (·.kind.asI64))).filterMap fun entry =>
    (CrashKind.fromI64 entry.1).map fun kind => { kind, count := entry.2 }

def packageCounts (groups : List GroupSummary) : List PackageCount :=
  (mostFrequent (fun a b => decide (a ≤ b)) (groups.map (·.packageName))).map fun entry =>
    { packageName := entry.1, label := none, count := entry.2 }

def exceptionCounts (groups : List GroupSummary) : List ExceptionCount :=
  (mostFrequent (fun a b => decide (a ≤ b)) (groups.filterMap (·.summaryClass))).map fun entry =>
    { className := entry.1, count := entry.2 }

def stats (timeFromMs timeToMs : Option I64) (bucketMs : I64) : StoreM Stats := do
  let fromMs := timeFromMs.getD .minValue
  let toMs := timeToMs.getD .maxValue
  let total ← query fun db => (db.window fromMs toMs).length
  let byKind ← query fun db => kindCounts (db.groupsOf (db.window fromMs toMs))
  let topPackages ← query fun db => (packageCounts (db.groupsOf (db.window fromMs toMs))).take 10
  let topExceptions ← query fun db => (exceptionCounts (db.groupsOf (db.window fromMs toMs))).take 10
  let crashedAppCount ← query fun db =>
    ((db.groupsOf (db.window fromMs toMs)).map (·.packageName)).dedup.length
  let trend ← trend fromMs toMs bucketMs
  pure { total, byKind, topPackages, topExceptions, trend, crashedAppCount, installedAppCount := 0 }

def bucketHolds (width : I64) (bucket : TrendBucket) (time : I64) : Bool :=
  bucket.fromMs.val ≤ time.val && time.val < bucket.fromMs.val + width.val

structure AddsUp (stats : Stats) (times : List I64) (width : I64) : Prop where
  positive : 0 < width.val
  total : stats.total = times.length
  kinds : (stats.byKind.map (·.count)).sum = stats.total
  trend : (stats.trend.map (·.count)).sum = stats.total
  apart : stats.trend.Pairwise fun a b => a.fromMs.val + width.val ≤ b.fromMs.val
  counted : ∀ bucket ∈ stats.trend, bucket.count = times.countP (bucketHolds width bucket)
  bucketed : ∀ time ∈ times, ∃! bucket, bucket ∈ stats.trend ∧ bucketHolds width bucket time = true

section
variable {db : Database}

theorem length_groupsOf (kept : WellKept db) {rows : List RecordRow}
    (stored : ∀ row ∈ rows, row ∈ db.records.rows) : (db.groupsOf rows).length = rows.length := by
  induction rows with
  | nil => rfl
  | cons row rows ih =>
      obtain ⟨group, member, same⟩ := List.mem_map.mp (kept.grouped row (stored row List.mem_cons_self))
      have found : db.groups.find? row.groupId = some group :=
        (Table.find?_eq_some_iff _).mpr ⟨member, same⟩
      have rest := ih fun row member => stored row (List.mem_cons_of_mem _ member)
      have first : db.groupsOf (row :: rows) = group :: db.groupsOf rows := List.filterMap_cons_some found
      rw [first, List.length_cons, List.length_cons, rest]

theorem map_count_kinds {entries : List (Int × Nat)}
    (known : ∀ entry ∈ entries, ∃ kind : CrashKind, entry.1 = kind.asI64) :
    (entries.filterMap fun entry => (CrashKind.fromI64 entry.1).map fun kind =>
      ({ kind, count := entry.2 } : KindCount)).map (·.count) = entries.map Prod.snd := by
  induction entries with
  | nil => rfl
  | cons entry entries ih =>
      obtain ⟨kind, same⟩ := known entry List.mem_cons_self
      rw [List.filterMap_cons_some (by rw [same, CrashKind.fromI64_asI64]; rfl), List.map_cons, List.map_cons,
        ih fun entry member => known entry (List.mem_cons_of_mem _ member)]

theorem sum_mostFrequent {κ : Type} [DecidableEq κ] (le : κ → κ → Bool) (keys : List κ) :
    ((mostFrequent le keys).map Prod.snd).sum = keys.length := by
  rw [mostFrequent, ((List.mergeSort_perm _ _).map _).sum_eq, sum_tally]

theorem sum_kindCounts (groups : List GroupSummary) :
    ((kindCounts groups).map (·.count)).sum = groups.length := by
  rw [kindCounts, map_count_kinds, sum_mostFrequent, List.length_map]
  intro entry member
  obtain ⟨group, -, kind⟩ := List.mem_map.mp (mem_tally.mp (List.mem_mergeSort.mp member)).1
  exact ⟨group.kind, kind.symm⟩

end
section
variable {times : List I64} {start end_ bucketMs : I64}

theorem bounds_eq_some (found : bounds times = some (start, end_)) :
    start ∈ times ∧ end_ ∈ times ∧ ∀ time ∈ times, start ≤ time ∧ time ≤ end_ := by
  obtain ⟨first, least, last, greatest, same⟩ : ∃ first, times.min? = some first ∧
      ∃ last, times.max? = some last ∧ (first, last) = (start, end_) := by
    cases least : times.min? with
    | none => simp [bounds, least] at found
    | some first =>
        cases greatest : times.max? with
        | none => simp [bounds, greatest] at found
        | some last => exact ⟨first, rfl, last, rfl, by simpa [bounds, least, greatest] using found⟩
  cases same
  obtain ⟨first, before⟩ := List.min?_eq_some_iff.mp least
  obtain ⟨last, after⟩ := List.max?_eq_some_iff.mp greatest
  exact ⟨first, last, fun time member => ⟨before time member, after time member⟩⟩

theorem trendWidth_positive (start end_ bucketMs : I64) : 0 < (trendWidth start end_ bucketMs).val := by
  unfold trendWidth
  split_ifs with given
  · exact given
  · rw [I64.val_max, I64.val_one]
    exact lt_max_of_lt_right Int.one_pos

variable {width : I64}

theorem bounds_of_mem {time : I64} (member : time ∈ times) :
    ∃ start end_, bounds times = some (start, end_) := by
  obtain ⟨first, least⟩ := Option.ne_none_iff_exists'.mp fun none =>
    List.ne_nil_of_mem member (List.min?_eq_none_iff.mp none)
  obtain ⟨last, greatest⟩ := Option.ne_none_iff_exists'.mp fun none =>
    List.ne_nil_of_mem member (List.max?_eq_none_iff.mp none)
  exact ⟨first, last, by simp [bounds, least, greatest]⟩

theorem bucketIndex_eq_some {time : I64} (after : start ≤ time)
    (near : time.val - start.val < 2 ^ 63) :
    bucketIndex start width time = some ((time.val - start.val) / width.val) := by
  have offset : 0 ≤ time.val - start.val := Int.sub_nonneg_of_le after
  rw [bucketIndex, I64.ofInt?, dif_pos ⟨by omega, by omega⟩, Option.map_some,
    Int.tdiv_eq_ediv_of_nonneg offset]

theorem mapM_bucketIndex {read : List I64}
    (within : ∀ time ∈ read, start ≤ time ∧ time.val - start.val < 2 ^ 63) :
    read.mapM (bucketIndex start width) =
      some (read.map fun time => (time.val - start.val) / width.val) := by
  induction read with
  | nil => rfl
  | cons time read ih =>
      obtain ⟨after, near⟩ := within time List.mem_cons_self
      rw [List.mapM_cons, bucketIndex_eq_some after near,
        ih fun time member => within time (List.mem_cons_of_mem _ member)]
      rfl

def bucketsOf (start width : I64) (times : List I64) : List TrendBucket :=
  trendBuckets start width (times.map fun time => (time.val - start.val) / width.val)

theorem sum_bucketsOf : ((bucketsOf start width times).map (·.count)).sum = times.length := by
  have counts : (bucketsOf start width times).map (·.count) =
      (tally (fun a b => decide (a ≤ b)) (times.map fun time => (time.val - start.val) / width.val)).map
        Prod.snd := by
    rw [bucketsOf, trendBuckets, List.map_map]
    rfl
  rw [counts, sum_tally, List.length_map]

section
variable (positive : 0 < width.val)
include positive

theorem val_bucketStart {time : I64} (after : start ≤ time) :
    (I64.wrap (start.val + (time.val - start.val) / width.val * width.val)).val =
      start.val + (time.val - start.val) / width.val * width.val := by
  have offset : 0 ≤ time.val - start.val := Int.sub_nonneg_of_le after
  have below := Int.ediv_mul_le (time.val - start.val) (Int.ne_of_gt positive)
  have quotient := Int.mul_nonneg (Int.ediv_nonneg offset positive.le) positive.le
  have lower := start.lower
  have upper := time.upper
  exact I64.val_wrap (by omega) (by omega)

theorem holds_iff {index : Int} {bucket : TrendBucket}
    (begins : bucket.fromMs.val = start.val + index * width.val)
    (time : I64) : bucketHolds width bucket time = true ↔ (time.val - start.val) / width.val = index := by
  rw [bucketHolds, Bool.and_eq_true, decide_eq_true_iff, decide_eq_true_iff, begins,
    Int.ediv_eq_iff_of_pos positive]
  constructor
  · rintro ⟨after, before⟩
    exact ⟨by linarith, by linarith⟩
  · rintro ⟨after, before⟩
    exact ⟨by linarith, by linarith⟩

variable (within : ∀ time ∈ times, start ≤ time)
include within

theorem mem_bucketsOf {bucket : TrendBucket} (member : bucket ∈ bucketsOf start width times) :
    ∃ time ∈ times,
      bucket.fromMs.val = start.val + (time.val - start.val) / width.val * width.val ∧
      bucket.count = times.countP (bucketHolds width bucket) := by
  obtain ⟨entry, tallied, rfl⟩ := List.mem_map.mp member
  obtain ⟨key, count⟩ := mem_tally.mp tallied
  obtain ⟨time, stored, index⟩ := List.mem_map.mp key
  have begins := val_bucketStart positive (within time stored)
  rw [index] at begins
  refine ⟨time, stored, by rw [index]; exact begins, ?_⟩
  rw [show (_ : TrendBucket).count = entry.2 from rfl, count, List.count, List.countP_map]
  refine List.countP_congr fun time _ => ?_
  rw [holds_iff positive begins, Function.comp_apply, beq_iff_eq]

theorem bucket_of_time {time : I64} (member : time ∈ times) :
    ∃ bucket ∈ bucketsOf start width times,
      bucket.fromMs.val = start.val + (time.val - start.val) / width.val * width.val := by
  let index (time : I64) : Int := (time.val - start.val) / width.val
  have tallied : (index time, (times.map index).count (index time)) ∈
      tally (fun a b => decide (a ≤ b)) (times.map index) :=
    mem_tally.mpr ⟨List.mem_map_of_mem member, rfl⟩
  exact ⟨_, List.mem_map_of_mem tallied, val_bucketStart positive (within time member)⟩

theorem apart_bucketsOf :
    (bucketsOf start width times).Pairwise fun a b => a.fromMs.val + width.val ≤ b.fromMs.val := by
  have sorted := @sorted_tally Int _ (fun a b => decide (a ≤ b))
    (times.map fun time => (time.val - start.val) / width.val)
    (fun a b c first second => decide_eq_true ((of_decide_eq_true first).trans (of_decide_eq_true second)))
    (fun a b => by simpa using le_total a b)
  have increasing := sorted.and nodup_tally
  rw [List.pairwise_map] at increasing
  rw [bucketsOf, trendBuckets, List.pairwise_map]
  refine increasing.imp_of_mem ?_
  rintro low high lowTallied highTallied ⟨ordered, distinct⟩
  obtain ⟨first, stored, index⟩ := List.mem_map.mp (mem_tally.mp lowTallied).1
  obtain ⟨second, stored', index'⟩ := List.mem_map.mp (mem_tally.mp highTallied).1
  have lowStart := val_bucketStart positive (within first stored)
  have highStart := val_bucketStart positive (within second stored')
  rw [index] at lowStart
  rw [index'] at highStart
  rw [lowStart, highStart]
  have next : low.1 + 1 ≤ high.1 := lt_of_le_of_ne (of_decide_eq_true ordered) distinct
  have scaled := Int.mul_le_mul_of_nonneg_right next positive.le
  linarith

theorem exists_unique_bucket {time : I64} (member : time ∈ times) :
    ∃! bucket, bucket ∈ bucketsOf start width times ∧ bucketHolds width bucket time = true := by
  obtain ⟨bucket, listed, begins⟩ := bucket_of_time positive within member
  refine ⟨bucket, ⟨listed, (holds_iff positive begins time).mpr rfl⟩, ?_⟩
  rintro other ⟨listed', holds⟩
  obtain ⟨first, -, begins', count'⟩ := mem_bucketsOf positive within listed'
  obtain ⟨-, -, -, count⟩ := mem_bucketsOf positive within listed
  have same : other.fromMs = bucket.fromMs := I64.ext (by
    rw [begins, begins', (holds_iff positive begins' time).mp holds])
  have held : bucketHolds width other = bucketHolds width bucket := by
    funext time
    rw [bucketHolds, bucketHolds, same]
  rw [held, ← count] at count'
  cases other
  cases bucket
  cases same
  cases count'
  rfl

end
end

def Database.bucketWidth (db : Database) (fromMs toMs bucketMs : I64) : I64 :=
  match bounds (db.timesIn fromMs toMs) with
  | none => 1
  | some (start, end_) => trendWidth start end_ bucketMs

section
variable {s : StoreState} {fromMs toMs bucketMs : I64}

theorem mem_window {row : RecordRow} : row ∈ s.db.window fromMs toMs ↔
    row ∈ s.db.records.rows ∧ fromMs ≤ row.happenedAtMs ∧ row.happenedAtMs < toMs := by
  rw [Database.window, List.mem_filter, Bool.and_eq_true, decide_eq_true_iff, decide_eq_true_iff]

theorem bucketWidth_of_positive (given : 0 < bucketMs) {time : I64}
    (member : time ∈ s.db.timesIn fromMs toMs) : s.db.bucketWidth fromMs toMs bucketMs = bucketMs := by
  obtain ⟨start, end_, range⟩ := bounds_of_mem member
  simp only [Database.bucketWidth, range]
  exact if_pos given

theorem addsUp_of_trend (kept : WellKept s.db) {result : Stats}
    (total : result.total = (s.db.timesIn fromMs toMs).length)
    (kinds : result.byKind = kindCounts (s.db.groupsOf
      (s.db.window fromMs toMs)))
    (buckets : result.trend = [] ∧ s.db.timesIn fromMs toMs = [] ∨ ∃ start end_,
      bounds (s.db.timesIn fromMs toMs) = some (start, end_) ∧
      result.trend = bucketsOf start (trendWidth start end_ bucketMs) (s.db.timesIn fromMs toMs)) :
    AddsUp result (s.db.timesIn fromMs toMs) (s.db.bucketWidth fromMs toMs bucketMs) := by
  have kindsAdd : (result.byKind.map (·.count)).sum = result.total := by
    have stored : ∀ row ∈ s.db.window fromMs toMs,
        row ∈ s.db.records.rows := fun row member => (List.mem_filter.mp member).1
    rw [kinds, sum_kindCounts, length_groupsOf kept stored, total, Database.timesIn, List.length_map]
  rcases buckets with ⟨empty, none⟩ | ⟨start, end_, range, trend⟩
  · have width : s.db.bucketWidth fromMs toMs bucketMs = 1 := by
      rw [Database.bucketWidth, none]
      rfl
    rw [width, none]
    rw [none] at total
    exact ⟨by decide, total, kindsAdd, by rw [empty, total]; rfl, by rw [empty]; exact .nil,
      by simp [empty], by simp⟩
  · have width : s.db.bucketWidth fromMs toMs bucketMs = trendWidth start end_ bucketMs := by
      simp only [Database.bucketWidth, range]
    have positive := trendWidth_positive start end_ bucketMs
    have within := fun time member => ((bounds_eq_some range).2.2 time member).1
    rw [width]
    refine ⟨positive, total, kindsAdd, ?_, ?_, ?_, ?_⟩
    · rw [trend, sum_bucketsOf, total]
    · rw [trend]
      exact apart_bucketsOf positive within
    · rw [trend]
      intro bucket member
      obtain ⟨-, -, -, count⟩ := mem_bucketsOf positive within member
      exact count
    · rw [trend]
      exact fun time member => exists_unique_bucket positive within member

theorem mem_timesIn {time : I64} (member : time ∈ s.db.timesIn fromMs toMs) :
    ∃ row ∈ s.db.records.rows, row.happenedAtMs = time := by
  obtain ⟨row, counted, same⟩ := List.mem_map.mp member
  exact ⟨row, (List.mem_filter.mp counted).1, same⟩

variable (near : ∀ a ∈ s.db.records.rows, ∀ b ∈ s.db.records.rows,
  a.happenedAtMs.val - b.happenedAtMs.val < 2 ^ 63)
include near

theorem mapM_times {start end_ : I64} (range : bounds (s.db.timesIn fromMs toMs) = some (start, end_))
    (width : I64) : (s.db.timesIn fromMs toMs).mapM (bucketIndex start width) =
      some ((s.db.timesIn fromMs toMs).map fun time => (time.val - start.val) / width.val) := by
  refine mapM_bucketIndex fun time member => ?_
  obtain ⟨first, -, between⟩ := bounds_eq_some range
  obtain ⟨row, stored, same⟩ := mem_timesIn member
  obtain ⟨earliest, stored', begins⟩ := mem_timesIn first
  rw [← same, ← begins]
  rw [← same] at member
  rw [← begins] at between
  exact ⟨(between _ member).1, near row stored earliest stored'⟩

theorem trend_ends : Ends s (trend fromMs toMs bucketMs)
    (fun buckets _ => buckets = [] ∧ s.db.timesIn fromMs toMs = [] ∨ ∃ start end_,
      bounds (s.db.timesIn fromMs toMs) = some (start, end_) ∧
      buckets = bucketsOf start (trendWidth start end_ bucketMs) (s.db.timesIn fromMs toMs))
    fun _ => True := by
  refine Ends.query_bind trivial ?_
  cases range : bounds (s.db.timesIn fromMs toMs) with
  | none =>
      refine Ends.pure (.inl ⟨rfl, List.eq_nil_iff_forall_not_mem.mpr fun time member => ?_⟩)
      obtain ⟨start, end_, found⟩ := bounds_of_mem member
      cases range.symm.trans found
  | some range' =>
      refine Ends.query_bind trivial ?_
      rw [mapM_times near range]
      exact Ends.pure (.inr ⟨range'.1, range'.2, rfl, rfl⟩)

theorem trend_quiet (fromMs toMs bucketMs : I64) :
    ∃ buckets, trend fromMs toMs bucketMs (quiet s) = (.ok buckets, quiet s) := by
  unfold trend
  rw [bind_run, query_quiet]
  cases range : bounds (s.db.timesIn fromMs toMs) with
  | none => exact ⟨[], rfl⟩
  | some range' =>
      have read := mapM_times near range (trendWidth range'.1 range'.2 bucketMs)
      simp only [bind_run, query_quiet, read]
      exact ⟨_, rfl⟩

theorem stats_ends (kept : WellKept s.db) (timeFromMs timeToMs : Option I64) (bucketMs : I64) :
    Ends s (stats timeFromMs timeToMs bucketMs)
      (fun result _ => AddsUp result
        (s.db.timesIn (timeFromMs.getD .minValue) (timeToMs.getD .maxValue))
        (s.db.bucketWidth (timeFromMs.getD .minValue) (timeToMs.getD .maxValue) bucketMs))
      fun _ => True := by
  refine Ends.query_bind trivial (Ends.query_bind trivial (Ends.query_bind trivial
    (Ends.query_bind trivial (Ends.query_bind trivial (Ends.bind (trend_ends near) ?_)))))
  intro buckets t trend
  exact Ends.pure (addsUp_of_trend kept (List.length_map _).symm rfl trend)

end

/-- In every store that writes lead to, the statistics of every window and for every width count each
record of the window once by kind and once in the bucket that holds its time. -/
theorem stats_add_up (platform : Platform) {s : StoreState} (lived : Lived platform s)
    (near : ∀ a ∈ s.db.records.rows, ∀ b ∈ s.db.records.rows,
      a.happenedAtMs.val - b.happenedAtMs.val < 2 ^ 63)
    (timeFromMs timeToMs : Option I64) (bucketMs : I64) :
    (∃ result, stats timeFromMs timeToMs bucketMs (quiet s) = (.ok result, quiet s)) ∧
      (∀ row, row ∈ s.db.window (timeFromMs.getD .minValue) (timeToMs.getD .maxValue) ↔
        row ∈ s.db.records.rows ∧ timeFromMs.getD .minValue ≤ row.happenedAtMs ∧
          row.happenedAtMs < timeToMs.getD .maxValue) ∧
      (0 < bucketMs → ∀ time ∈ s.db.timesIn (timeFromMs.getD .minValue) (timeToMs.getD .maxValue),
        s.db.bucketWidth (timeFromMs.getD .minValue) (timeToMs.getD .maxValue) bucketMs = bucketMs) ∧
      ∀ faults result world, stats timeFromMs timeToMs bucketMs { store := s, faults } = (.ok result, world) →
        AddsUp result (s.db.timesIn (timeFromMs.getD .minValue) (timeToMs.getD .maxValue))
          (s.db.bucketWidth (timeFromMs.getD .minValue) (timeToMs.getD .maxValue) bucketMs) := by
  refine ⟨?_, fun row => mem_window, fun given time member => bucketWidth_of_positive given member, ?_⟩
  · obtain ⟨buckets, trend⟩ :=
      trend_quiet near (timeFromMs.getD .minValue) (timeToMs.getD .maxValue) bucketMs
    unfold stats
    simp only [bind_run, query_quiet, trend]
    exact ⟨_, rfl⟩
  · intro faults result world done
    have ends := stats_ends near lived.kept.2 timeFromMs timeToMs bucketMs { store := s, faults } rfl
    rw [done] at ends
    exact ends

theorem stats_add_up_of_two_sightings :
    (∃ result, stats none none 60000 (quiet twoSightings) = (.ok result, quiet twoSightings)) ∧
      (∀ row, row ∈ twoSightings.db.window .minValue .maxValue ↔
        row ∈ twoSightings.db.records.rows ∧ .minValue ≤ row.happenedAtMs ∧ row.happenedAtMs < .maxValue) ∧
      (0 < (60000 : I64) → ∀ time ∈ twoSightings.db.timesIn .minValue .maxValue,
        twoSightings.db.bucketWidth .minValue .maxValue 60000 = 60000) ∧
      ∀ faults result world,
        stats none none 60000 { store := twoSightings, faults } = (.ok result, world) →
          AddsUp result (twoSightings.db.timesIn .minValue .maxValue)
            (twoSightings.db.bucketWidth .minValue .maxValue 60000) :=
  stats_add_up plainPlatform (.step _ noFaults (.step _ noFaults .empty))
    (by decide +kernel) none none 60000

end CrashCatcher.Store
