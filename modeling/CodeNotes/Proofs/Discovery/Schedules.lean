import CodeNotes.Discovery.Flight
import CodeNotes.Proofs.Discovery.Files
set_option autoImplicit false

/-!
# Discovery under every scheduling of its workers

Discovery hands the pool one job per file read and collects what the jobs send.  The
workers may run the jobs in any order; each job sends its batch whole.  Main statement:

* `discover_every_schedule`: discovery fails only where the source root is not a
  directory, and then answers with the comments of one scheduling; every scheduling of
  the workers that is over has received the block of each file read exactly once and
  whole, in some order; a scheduling that is not over can always go on, and every
  scheduling is over within two moves per file.

A flight keeps one account of the jobs handed to it (`Flight.Accounts`): the comments
received, then the batches on the channel, are the batches of the jobs run so far in the
order they ran, and those jobs with the pending ones are the jobs handed over.  Each move
keeps it (`Flight.Accounts.move`), so each scheduling does (`Flight.Accounts.follow`).
-/

namespace CodeNotes.Discovery

open CodeNotes.Fs CodeNotes.Extract

theorem runJobs_append (jobs : List Job) (j : Job) (tags : TagSet) :
    runJobs (jobs ++ [j]) tags = runJobs jobs tags ++ (j.run tags).toList := by
  simp only [runJobs, List.filterMap_append, List.filterMap_cons, List.filterMap_nil]
  cases j.run tags <;> rfl

namespace Flight

variable {tags : TagSet}

theorem follow_cons (s : Flight) (m : Move) (ms : List Move) :
    follow tags s (m :: ms) = (move tags s m).bind fun s' => follow tags s' ms := rfl

theorem follow_cons_eq_some {s s' : Flight} {m : Move} {ms : List Move} :
    follow tags s (m :: ms) = some s' ↔
      ∃ s₁, move tags s m = some s₁ ∧ follow tags s₁ ms = some s' := by
  rw [follow_cons, Option.bind_eq_some_iff]

/-- A worker's move takes one pending job out and sends its batch, if it finishes. -/
theorem move_run {s s' : Flight} {i : Nat} (h : move tags s (.run i) = some s') :
    ∃ pre j post, s.pending = pre ++ j :: post ∧
      s' = ⟨pre ++ post, s.channel ++ (j.run tags).toList, s.received⟩ := by
  simp only [move] at h
  cases hj : s.pending[i]? with
  | none => simp [hj] at h
  | some j =>
    simp only [hj, Option.some.injEq] at h
    subst h
    obtain ⟨hi, hget⟩ := List.getElem?_eq_some_iff.1 hj
    refine ⟨s.pending.take i, j, s.pending.drop (i + 1), ?_, by rw [List.eraseIdx_eq_take_drop_succ]⟩
    rw [← hget, ← List.drop_eq_getElem_cons hi, List.take_append_drop]

/-- The receiver's move takes the oldest batch off the channel. -/
theorem move_receive {s s' : Flight} (h : move tags s .receive = some s') :
    ∃ batch rest, s.channel = batch :: rest ∧ s' = ⟨s.pending, rest, s.received ++ batch⟩ := by
  simp only [move] at h
  split at h
  · rename_i batch rest hch
    cases h
    exact ⟨batch, rest, hch, rfl⟩
  · cases h

/-! ## What a flight makes of its jobs -/

/-- What a flight has made of the jobs handed to it: the comments received, then the
batches on the channel, are the batches of the jobs run so far in the order they ran, and
those jobs with the pending ones are the jobs handed over. -/
def Accounts (tags : TagSet) (jobs : List Job) (s : Flight) : Prop :=
  ∃ ran : List Job, (ran ++ s.pending).Perm jobs ∧
    s.received ++ s.channel.flatten = (runJobs ran tags).flatten

theorem accounts_start (jobs : List Job) : Accounts tags jobs (start jobs) :=
  ⟨[], List.Perm.refl _, rfl⟩

/-- A move keeps the account: a job run moves from the pending ones to those run, its
batch onto the channel; a batch received moves from the channel to the comments. -/
theorem Accounts.move {jobs : List Job} {s s' : Flight} {m : Move} (h : Accounts tags jobs s)
    (hm : move tags s m = some s') : Accounts tags jobs s' := by
  obtain ⟨ran, hperm, hrec⟩ := h
  cases m with
  | run i =>
    obtain ⟨pre, j, post, hpend, rfl⟩ := move_run hm
    refine ⟨ran ++ [j], ?_, ?_⟩
    · rw [hpend] at hperm
      have hmid : (ran ++ [j] ++ (pre ++ post)).Perm (ran ++ (pre ++ j :: post)) := by
        simpa using (List.perm_middle.append_left ran).symm
      exact hmid.trans hperm
    · show s.received ++ (s.channel ++ (j.run tags).toList).flatten =
        (runJobs (ran ++ [j]) tags).flatten
      rw [runJobs_append, List.flatten_append, List.flatten_append, ← hrec, List.append_assoc]
  | receive =>
    obtain ⟨batch, rest, hch, rfl⟩ := move_receive hm
    refine ⟨ran, hperm, ?_⟩
    rw [← hrec, hch, List.flatten_cons, List.append_assoc]

/-- Every scheduling keeps the account: induction on its moves. -/
theorem Accounts.follow {jobs : List Job} {s s' : Flight} {ms : List Move}
    (h : Accounts tags jobs s) (hf : follow tags s ms = some s') : Accounts tags jobs s' := by
  induction ms generalizing s with
  | nil =>
    cases hf
    exact h
  | cons m ms ih =>
    obtain ⟨s₁, hm, hf⟩ := follow_cons_eq_some.1 hf
    exact ih (h.move hm) hf

/-- A flight that is over has received the batch of each job exactly once and whole, in
some order. -/
theorem Accounts.received_of_done {jobs : List Job} {s : Flight} (h : Accounts tags jobs s)
    (hdone : s.done = true) :
    ∃ bs : List (List Comment), bs.Perm (runJobs jobs tags) ∧ s.received = bs.flatten := by
  obtain ⟨ran, hperm, hrec⟩ := h
  simp only [done, Bool.and_eq_true, List.isEmpty_iff] at hdone
  rw [hdone.1, List.append_nil] at hperm
  rw [hdone.2, List.flatten_nil, List.append_nil] at hrec
  exact ⟨runJobs ran tags, hperm.filterMap _, hrec⟩

/-! ## Schedulings end -/

/-- Two for each pending job, one for each batch on the channel. -/
def weight (s : Flight) : Nat := 2 * s.pending.length + s.channel.length

/-- Every move lowers the weight: a job run sends at most one batch. -/
theorem weight_move {s s' : Flight} {m : Move} (hm : move tags s m = some s') :
    s'.weight < s.weight := by
  cases m with
  | run i =>
    obtain ⟨pre, j, post, hpend, rfl⟩ := move_run hm
    have hsent : (j.run tags).toList.length ≤ 1 := by
      cases j.run tags <;> simp
    simp only [weight, hpend, List.length_append, List.length_cons]
    omega
  | receive =>
    obtain ⟨batch, rest, hch, rfl⟩ := move_receive hm
    simp only [weight, hch, List.length_cons]
    omega

/-- A scheduling makes at most as many moves as the weight it starts from. -/
theorem length_le_of_follow {s s' : Flight} {ms : List Move} (hf : follow tags s ms = some s') :
    ms.length + s'.weight ≤ s.weight := by
  induction ms generalizing s with
  | nil =>
    cases hf
    simp
  | cons m ms ih =>
    obtain ⟨s₁, hm, hf⟩ := follow_cons_eq_some.1 hf
    have hrest := ih hf
    have hlower := weight_move hm
    rw [List.length_cons]
    omega

/-- A flight that is not over has a move left: a worker can run a pending job, or the
receiver can take a batch. -/
theorem exists_move {s : Flight} (h : s.done = false) : ∃ m s', move tags s m = some s' := by
  cases hp : s.pending with
  | cons j rest =>
    exact ⟨.run 0, ⟨rest, s.channel ++ (j.run tags).toList, s.received⟩, by simp [move, hp]⟩
  | nil =>
    cases hc : s.channel with
    | cons batch rest =>
      exact ⟨.receive, ⟨s.pending, rest, s.received ++ batch⟩, by simp [move, hc]⟩
    | nil => simp [done, hp, hc] at h

/-- Running each job in turn and taking its batch at once receives the batches in the
order of the jobs. -/
theorem follow_inOrder (jobs : List Job) (received : List Comment) :
    ∃ ms, follow tags ⟨jobs, [], received⟩ ms =
      some ⟨[], [], received ++ (runJobs jobs tags).flatten⟩ := by
  induction jobs generalizing received with
  | nil => exact ⟨[], by simp [runJobs, Flight.follow]⟩
  | cons j rest ih =>
    cases hj : j.run tags with
    | none =>
      obtain ⟨ms, hms⟩ := ih received
      refine ⟨.run 0 :: ms, ?_⟩
      simpa [follow_cons, move, hj, runJobs] using hms
    | some batch =>
      obtain ⟨ms, hms⟩ := ih (received ++ batch)
      refine ⟨.run 0 :: .receive :: ms, ?_⟩
      simpa [follow_cons, move, hj, runJobs] using hms

end Flight

/-! ## The jobs of discovery -/

/-- The first part of a left fold whose step appends to it. -/
theorem fst_foldl_append {α β γ : Type} (f : List α × β → γ → List α × β) (g : γ → List α)
    (hf : ∀ acc b, (f acc b).1 = acc.1 ++ g b) :
    ∀ (bs : List γ) (acc : List α × β), (bs.foldl f acc).1 = acc.1 ++ bs.flatMap g
  | [], acc => by simp
  | b :: bs, acc => by
    rw [List.foldl_cons, fst_foldl_append f g hf bs, hf, List.flatMap_cons, List.append_assoc]

theorem map_fst_runLogged (jobs : List Job) (tags : TagSet) :
    (runLogged jobs tags).map (·.1) = runJobs jobs tags := by
  simp only [runLogged, runJobs, List.map_filterMap]
  congr
  funext j
  cases hw : j.work <;> simp [Job.run, hw]

namespace Engine

/-- The jobs discovery hands the pool: one per file read, under its root-relative path. -/
def jobs (e : Engine) (t : Tree) : List Job :=
  (e.loaded t).map fun f => ⟨e.relativePath f.2.1, f.2.2, .extract f.1⟩

/-- The block of comments of each file read: its extractor's comments under its
root-relative path. -/
def blocks (e : Engine) (t : Tree) (tags : TagSet) : List (List Comment) :=
  (e.loaded t).map fun f => f.1.extract (e.relativePath f.2.1) f.2.2 tags

theorem runJobs_jobs (e : Engine) (t : Tree) (tags : TagSet) :
    runJobs (e.jobs t) tags = e.blocks t tags := by
  simp [runJobs, jobs, blocks, List.filterMap_map, Job.run]

theorem jobsOf_fst (e : Engine) (t : Tree) (ext : String) (files : List String) :
    (e.jobsOf t ext files).1 =
      (e.loadBucket t (ext, files)).map fun f => ⟨e.relativePath f.2.1, f.2.2, .extract f.1⟩ := by
  unfold jobsOf loadBucket
  cases e.registry.get? ext with
  | none => rfl
  | some x =>
    simp only
    split
    · rename_i hempty
      rw [List.isEmpty_iff.1 hempty, readAll_eq]
      rfl
    · simp [List.map_map, Function.comp_def]

/-- The loop over the buckets gathers the jobs of the files read. -/
theorem flatMap_jobsOf (e : Engine) (t : Tree) :
    (e.collect t).1.flatMap (fun b => (e.jobsOf t b.1 b.2).1) = e.jobs t := by
  simp only [jobs, loaded, List.map_flatMap, jobsOf_fst]

/-- Where the source root is a directory, discovery answers with the block of every file
read, in the order the files were read. -/
theorem discover_eq_ok (e : Engine) (t : Tree) (tags : TagSet)
    (hroot : t.isDir e.sourceRoot = true) :
    ∃ logs, e.discover t tags = .ok ((e.blocks t tags).flatten, logs) := by
  unfold discover
  simp only [hroot, Bool.not_true, Bool.false_eq_true, if_false]
  rw [fst_foldl_append _ (fun b => (e.jobsOf t b.1 b.2).1) (fun _ _ => rfl), List.nil_append,
    flatMap_jobsOf, map_fst_runLogged, runJobs_jobs]
  exact ⟨_, rfl⟩

theorem discover_eq_error (e : Engine) (t : Tree) (tags : TagSet)
    (hroot : t.isDir e.sourceRoot = false) :
    e.discover t tags = .error (.sourceRootMissing e.sourceRoot) := by
  simp [discover, hroot]

end Engine

/-! ## Every scheduling -/

/-- Discovery under every scheduling of the pool's workers.  It fails exactly where the
source root is not a directory, and otherwise answers with the blocks of the files read,
in the order they were read: what one scheduling receives.  Every scheduling of the jobs
it hands the pool that is over has received each file's block whole and exactly once, in
some order; a scheduling that is not over can go on, and none makes more than two moves a
file.  The files read come from the buckets with an extractor and read as text; every
file of such a bucket is read under its own path or an equal one, and no two files read
have equal paths. -/
theorem discover_every_schedule (e : Engine) (t : Tree) (tags : TagSet) :
    ((∃ r, e.discover t tags = .ok r) ↔ t.isDir e.sourceRoot = true) ∧
      (∀ cs logs, e.discover t tags = .ok (cs, logs) → cs = (e.blocks t tags).flatten) ∧
      (∃ ms, Flight.follow tags (Flight.start (e.jobs t)) ms =
        some ⟨[], [], (e.blocks t tags).flatten⟩) ∧
      (∀ ms s, Flight.follow tags (Flight.start (e.jobs t)) ms = some s → s.done = true →
        ∃ bs : List (List Comment), bs.Perm (e.blocks t tags) ∧ s.received = bs.flatten) ∧
      (∀ ms s, Flight.follow tags (Flight.start (e.jobs t)) ms = some s →
        (s.done = false → ∃ m s', Flight.move tags s m = some s') ∧
          ms.length ≤ 2 * (e.loaded t).length) ∧
      (∀ x p text, (x, p, text) ∈ e.loaded t → ∃ ext files, (ext, files) ∈ (e.collect t).1 ∧
        e.registry.get? ext = some x ∧ p ∈ files ∧ readFile t p = .ok text) ∧
      (∀ ext files x p, (ext, files) ∈ (e.collect t).1 → e.registry.get? ext = some x →
        p ∈ files → ∃ q ∈ files, Path.same q p = true ∧
          ∀ text, readFile t q = .ok text → (x, q, text) ∈ e.loaded t) ∧
      (e.loaded t).Pairwise (fun a b => Path.same a.2.1 b.2.1 = false) := by
  refine ⟨?_, ?_, ?_, ?_, ?_, fun x p text h => Engine.mem_loaded h,
    fun ext files x p hb hx hp => Engine.loaded_covers hb hx hp, Engine.loaded_distinct⟩
  · -- discovery fails only on its root
    cases hroot : t.isDir e.sourceRoot with
    | true =>
      obtain ⟨logs, hok⟩ := e.discover_eq_ok t tags hroot
      exact iff_of_true ⟨_, hok⟩ rfl
    | false =>
      rw [e.discover_eq_error t tags hroot]
      simp
  · intro cs logs hok
    cases hroot : t.isDir e.sourceRoot with
    | true =>
      obtain ⟨logs', hok'⟩ := e.discover_eq_ok t tags hroot
      rw [hok'] at hok
      simp only [Except.ok.injEq, Prod.mk.injEq] at hok
      exact hok.1.symm
    | false =>
      rw [e.discover_eq_error t tags hroot] at hok
      cases hok
  · obtain ⟨ms, hms⟩ := @Flight.follow_inOrder tags (e.jobs t) []
    rw [List.nil_append, Engine.runJobs_jobs] at hms
    exact ⟨ms, hms⟩
  · intro ms s hf hdone
    have hacc := (@Flight.accounts_start tags (e.jobs t)).follow hf
    rw [← Engine.runJobs_jobs]
    exact hacc.received_of_done hdone
  · intro ms s hf
    refine ⟨Flight.exists_move, ?_⟩
    have hlen := Flight.length_le_of_follow hf
    simp only [Flight.weight, Flight.start, Engine.jobs, List.length_map, List.length_nil,
      Nat.add_zero] at hlen
    omega

end CodeNotes.Discovery
