/-
  Files after several sessions.

  A session on a file of the working directory puts the bytes of the jobs it sent into it, behind
  the former content or in its place (`deliver_of_writing`), and leaves every other file as it was
  (`get?_deliver_of_none`). So what stands in a file in the end are the jobs of the sessions on it,
  from the last that replaced the content on, one byte for each character (`sessions_keep`).
-/
import ThermalLabel.Proofs.Delivery.Sending

namespace ThermalLabel

/-! ## Names -/

/-- A name that a file of a directory may have. -/
structure Directory.IsFileName (name : Text) : Prop where
  slash : '/' ∉ name
  null : '\x00' ∉ name
  /-- It is neither empty nor one of the names for the directory and the one above. -/
  proper : ¬ FileSystem.isStay name ∧ name ≠ ['.', '.']

namespace FileSystem

/-- In a single directory the name of a file leads to that file. -/
theorem flat_place?_self {name : Text} (h : Directory.IsFileName name) :
    flat.place? name = some (.file name) := by
  have hplain : plainName? name = some name := by
    unfold plainName?
    rw [Text.fields_of_not_mem h.slash]
    refine if_neg ?_
    rintro (hhead | hnull | hstay | hup | hsteps)
    · obtain ⟨rest, rfl⟩ := List.head?_eq_some_iff.mp hhead
      exact h.slash List.mem_cons_self
    · exact h.null hnull
    · exact h.proper.1 hstay
    · exact h.proper.2 hup
    · exact hsteps rfl
  show (plainName? name).map Destination.file = _
  rw [hplain]
  rfl

end FileSystem

namespace Session

/-- A session: its printer, how the network fails, if it does, and its jobs. -/
abbrev Run := Printer × Option NetworkFailure × List Text

/-- What a session does to a file. -/
structure Writing where
  mode : FileMode
  jobs : List Text
  deriving DecidableEq

/-- What a session does to the file of a name. -/
def writing? (system : FileSystem) (name : Text) : Run → Option Writing
  | (.file path letter, _, jobs) =>
    match FileMode.ofText letter, system.place? path with
    | .ok mode, some (.file other) => if other = name then some ⟨mode, jobs⟩ else none
    | _, _ => none
  | _ => none

/-- The characters that sessions send to a file, job after job, without the jobs that fail and
    those behind them. -/
def sentText (writings : List Writing) : Text := writings.flatMap fun w => (sendable w.jobs).flatten

/-- The files after all sessions. -/
def filesAfter (system : FileSystem) (files : Directory) (runs : List Run) : Directory :=
  ((deliverAll system files runs).getLast?.map Delivery.files).getD files

variable {system : FileSystem} {files : Directory} {name : Text} {jobs : List Text}

/-! ## One session -/

theorem sendable_encodable : ∀ job ∈ sendable jobs, job.all Latin1.isEncodable :=
  List.all_eq_true.mp List.all_takeWhile

/-- There is one byte for each character of the jobs that are sent. -/
theorem jobBytes_toNat (jobs : List Text) :
    (jobBytes (sendable jobs)).map UInt8.toNat = (sendable jobs).flatten.map Char.toNat := by
  have hall : ∀ job ∈ sendable jobs, job.all Latin1.isEncodable := sendable_encodable
  unfold jobBytes
  generalize sendable jobs = sent at hall
  induction sent with
  | nil => rfl
  | cons job rest ih =>
    rw [List.forall_mem_cons] at hall
    have hjob := Latin1.encode?_eq_some_iff.mpr ⟨hall.1, rfl⟩
    rw [List.flatMap_cons, List.flatten_cons, List.map_append, List.map_append, ih hall.2, hjob,
      Option.getD_some, List.map_map]
    congr 1
    refine List.map_congr_left fun c hc => ?_
    have hsmall : c.toNat ≤ 0xFF := Latin1.all_isEncodable_iff.mp hall.1 c hc
    exact Nat.mod_eq_of_lt (Nat.lt_succ_iff.mpr hsmall)

/-- How a session on a file ends. -/
structure Ends (jobs : List Text) (fault : Option DeliveryFault) : Prop where
  /-- It fails if and only if a job has a character without a byte. -/
  fails : fault = some .unencodable ↔ ∃ job ∈ jobs, ∃ c ∈ job, 0xFF < c.toNat
  succeeds : fault = none ↔ ∀ job ∈ jobs, ∀ c ∈ job, c.toNat ≤ 0xFF
  /-- The jobs that are sent have a byte for each character. -/
  sent : ∀ job ∈ sendable jobs, ∀ c ∈ job, c.toNat ≤ 0xFF
  /-- They are all jobs, or the first that is not sent has a character without a byte. -/
  stopped : sendable jobs = jobs ∨
    ∃ job rest, jobs = sendable jobs ++ job :: rest ∧ ∃ c ∈ job, 0xFF < c.toNat

theorem sendable_stops (jobs : List Text) : sendable jobs = jobs ∨
    ∃ job rest, jobs = sendable jobs ++ job :: rest ∧ ∃ c ∈ job, 0xFF < c.toNat := by
  induction jobs with
  | nil => exact .inl rfl
  | cons job rest ih =>
    unfold sendable at ih ⊢
    rw [List.takeWhile_cons]
    by_cases hjob : job.all Latin1.isEncodable = true
    · rw [if_pos hjob]
      rcases ih with hall | ⟨failed, others, hrest, hchar⟩
      · exact .inl (congrArg (job :: ·) hall)
      · exact .inr ⟨failed, others, congrArg (job :: ·) hrest, hchar⟩
    · rw [if_neg hjob]
      exact .inr ⟨job, rest, rfl, Latin1.exists_of_not_encodable.mp hjob⟩

theorem encodingFault_eq_some_iff :
    encodingFault jobs = some .unencodable ↔ ∃ job ∈ jobs, ∃ c ∈ job, 0xFF < c.toNat := by
  have hnone : encodingFault jobs = some .unencodable ↔ ¬ encodingFault jobs = none := by
    unfold encodingFault
    split <;> simp
  rw [hnone, encodingFault_eq_none_iff]
  simp only [Classical.not_forall, exists_prop, Latin1.exists_of_not_encodable]

theorem ends_encodingFault (jobs : List Text) : Ends jobs (encodingFault jobs) where
  fails := encodingFault_eq_some_iff
  succeeds := encodingFault_eq_none_iff.trans
    (forall₂_congr fun _ _ => Latin1.all_isEncodable_iff)
  sent := fun job hjob => Latin1.all_isEncodable_iff.mp (sendable_encodable job hjob)
  stopped := sendable_stops jobs

theorem deliver_of_writing {run : Run} {w : Writing} (files : Directory)
    (h : writing? system name run = some w) :
    deliver system run.2.1 files run.2.2 run.1 =
      toDestination files w.mode w.jobs (.file name) := by
  obtain ⟨printer, failure, jobs⟩ := run
  cases printer with
  | console => cases h
  | tcp host service timeout => cases h
  | file path letter =>
    unfold writing? at h
    dsimp only at h
    split at h
    · next mode other hmode hplace =>
      split at h
      · next heq =>
        cases h
        subst heq
        exact toFile_of_place hmode hplace
      · cases h
    · cases h

/-- A session on another file, or on none, leaves a file as it was. -/
theorem get?_deliver_of_none {run : Run} (files : Directory)
    (h : writing? system name run = none) :
    (deliver system run.2.1 files run.2.2 run.1).files.get? name = files.get? name := by
  obtain ⟨printer, failure, jobs⟩ := run
  cases printer with
  | console => rfl
  | tcp host service timeout => rfl
  | file path letter =>
    unfold writing? at h
    dsimp only at h
    rw [deliver_file, toFile]
    split
    · next mode destination hmode hdestination =>
      cases destination with
      | device other => rfl
      | full => rfl
      | file other =>
        rw [hmode, FileSystem.destination_eq_ok_iff.mp hdestination] at h
        dsimp only at h
        split at h
        · cases h
        · next hne => exact Directory.get?_put_of_ne (Ne.symm hne)
    · rfl
    · rfl
    · rfl

/-- A session on a path that leads to a file writes to that file. -/
theorem writing?_of_place {path letter : Text} {mode : FileMode}
    (failure : Option NetworkFailure) (hplace : system.place? path = some (.file name))
    (hmode : FileMode.ofText letter = .ok mode) :
    writing? system name (.file path letter, failure, jobs) = some ⟨mode, jobs⟩ := by
  unfold writing?
  dsimp only
  rw [hmode, hplace]
  exact if_pos rfl

/-! ## Several sessions -/

/-- The content after one more session. -/
def rewritten (former : Option Bytes) (w : Writing) : Option Bytes :=
  some (written (former.getD []) w.jobs w.mode)

theorem filesAfter_cons (files : Directory) (run : Run) (rest : List Run) :
    filesAfter system files (run :: rest) =
      filesAfter system (deliver system run.2.1 files run.2.2 run.1).files rest := by
  unfold filesAfter
  rw [deliverAll, List.getLast?_cons]
  cases (deliverAll system (deliver system run.2.1 files run.2.2 run.1).files rest).getLast? <;> rfl

theorem get?_filesAfter (files : Directory) (name : Text) (runs : List Run) :
    (filesAfter system files runs).get? name =
      (runs.filterMap (writing? system name)).foldl rewritten (files.get? name) := by
  induction runs generalizing files with
  | nil => rfl
  | cons run rest ih =>
    rw [filesAfter_cons, ih]
    cases hwriting : writing? system name run with
    | none => rw [List.filterMap_cons_none hwriting, get?_deliver_of_none files hwriting]
    | some w =>
      rw [List.filterMap_cons_some hwriting, deliver_of_writing files hwriting]
      exact congrArg (List.foldl rewritten · _) (Directory.get?_put_self files name _)

theorem rewritten_append (former : Option Bytes) {w : Writing} (h : w.mode = .append) :
    rewritten former w = some (former.getD [] ++ jobBytes (sendable w.jobs)) := by
  unfold rewritten written
  rw [h]

theorem rewritten_replace (former : Option Bytes) {w : Writing} (h : w.mode = .replace) :
    rewritten former w = some (jobBytes (sendable w.jobs)) := by
  unfold rewritten written
  rw [h]

/-- Sessions that append leave what was there in front of their jobs. -/
theorem foldl_rewritten (former : Bytes) {writings : List Writing}
    (h : ∀ w ∈ writings, w.mode = .append) :
    ∃ bytes, writings.foldl rewritten (some former) = some (former ++ bytes) ∧
      bytes.map UInt8.toNat = (sentText writings).map Char.toNat := by
  induction writings generalizing former with
  | nil => exact ⟨[], by rw [List.append_nil]; rfl, rfl⟩
  | cons w rest ih =>
    rw [List.forall_mem_cons] at h
    obtain ⟨bytes, hbytes, hchars⟩ := ih (former ++ jobBytes (sendable w.jobs)) h.2
    refine ⟨jobBytes (sendable w.jobs) ++ bytes, ?_, ?_⟩
    · rw [List.foldl_cons, rewritten_append _ h.1, Option.getD_some, hbytes, List.append_assoc]
    · unfold sentText at hchars ⊢
      rw [List.flatMap_cons, List.map_append, List.map_append, jobBytes_toNat, hchars]

/-- What stands in a file after the sessions on it. Each job is there as it was sent, one byte for
    each character. -/
structure Keeps (former : Option Bytes) (writings : List Writing) (content : Option Bytes) :
    Prop where
  /-- Without a session on it the file is as it was. -/
  untouched : writings = [] → content = former
  /-- If no session replaces the content, all jobs are behind the former content, and that is empty
      if there was no file. -/
  appended : writings ≠ [] → (∀ w ∈ writings, w.mode = .append) →
    ∃ bytes, content = some (former.getD [] ++ bytes) ∧
      bytes.map UInt8.toNat = (sentText writings).map Char.toNat
  /-- The last session that replaces the content and those behind it are all that is left. -/
  replaced : ∀ earlier last later, writings = earlier ++ last :: later → last.mode = .replace →
    (∀ w ∈ later, w.mode = .append) →
    ∃ bytes, content = some bytes ∧
      bytes.map UInt8.toNat = (sentText (last :: later)).map Char.toNat

theorem keeps_foldl (former : Option Bytes) (writings : List Writing) :
    Keeps former writings (writings.foldl rewritten former) where
  untouched := by
    rintro rfl
    rfl
  appended := by
    intro hne hmode
    cases former with
    | some former => exact foldl_rewritten former hmode
    | none =>
      -- a file that is not there takes what is appended as an empty one does
      cases writings with
      | nil => exact absurd rfl hne
      | cons w rest => exact foldl_rewritten [] hmode
  replaced := by
    rintro earlier last later rfl hlast hlater
    obtain ⟨bytes, hbytes, hchars⟩ := foldl_rewritten (jobBytes (sendable last.jobs)) hlater
    refine ⟨jobBytes (sendable last.jobs) ++ bytes, ?_, ?_⟩
    · rw [List.foldl_append, List.foldl_cons, rewritten_replace _ hlast, hbytes]
    · unfold sentText at hchars ⊢
      rw [List.flatMap_cons, List.map_append, List.map_append, jobBytes_toNat, hchars]

theorem deliverAll_getElem? (files : Directory) {runs : List Run} {i : Nat} {run : Run}
    (h : runs[i]? = some run) :
    ∃ before, (deliverAll system files runs)[i]? =
      some (deliver system run.2.1 before run.2.2 run.1) := by
  induction runs generalizing files i with
  | nil => cases h
  | cons first rest ih =>
    cases i with
    | zero =>
      cases h
      exact ⟨files, rfl⟩
    | succ i =>
      rw [List.getElem?_cons_succ] at h
      exact ih _ h

/-- After any sessions each file has the jobs of the sessions on it, from the last that replaced
    its content on. A session on a path that leads to a file is one on that file, and in a single
    directory the name of a file leads to it. A session fails at the first job with a character that
    has no byte, and nothing of that job is in the file. -/
theorem sessions_keep (system : FileSystem) (files : Directory) (runs : List Run) :
    (∀ name, Keeps (files.get? name) (runs.filterMap (writing? system name))
        ((filesAfter system files runs).get? name)) ∧
      (∀ (i : Nat) run name w, runs[i]? = some run → writing? system name run = some w →
        ∃ delivery, (deliverAll system files runs)[i]? = some delivery ∧
          Ends w.jobs delivery.fault) ∧
      (∀ path name letter mode failure jobs, system.place? path = some (.file name) →
        FileMode.ofText letter = .ok mode →
        writing? system name (.file path letter, failure, jobs) = some ⟨mode, jobs⟩) ∧
      ∀ name letter mode failure jobs, Directory.IsFileName name →
        FileMode.ofText letter = .ok mode →
        writing? .flat name (.file name letter, failure, jobs) = some ⟨mode, jobs⟩ := by
  refine ⟨fun name => ?_, fun i run name w hrun hw => ?_,
    fun path name letter mode failure jobs => ?_, fun name letter mode failure jobs hname => ?_⟩
  · rw [get?_filesAfter]
    exact keeps_foldl _ _
  · obtain ⟨before, hdelivery⟩ := deliverAll_getElem? files hrun
    rw [deliver_of_writing before hw] at hdelivery
    exact ⟨_, hdelivery, ends_encodingFault w.jobs⟩
  · exact writing?_of_place failure
  · exact writing?_of_place failure (FileSystem.flat_place?_self hname)

/-- Sessions on two files, of which one has a job that cannot be sent. -/
def severalSessions : List Run :=
  [(.file ['x'] ['w'], none, ["old".toList]),
    (.file ['x'] ['w'], none, ["\x02L\r".toList, "1€".toList, "lost".toList]),
    (.file ['y'] ['w'], none, ["other".toList]),
    (.file ['.', '/', 'x'] ['a'], none, ["E\n".toList])]

theorem sessions_keep_of_severalSessions :
    (∃ bytes, (filesAfter .flat [] severalSessions).get? ['x'] = some bytes ∧
        bytes.map UInt8.toNat = [2, 76, 13, 69, 10]) ∧
      (∃ delivery, (deliverAll .flat [] severalSessions)[1]? = some delivery ∧
        delivery.fault = some .unencodable) ∧
      writing? .flat ['x'] (.file ['x'] ['a'], none, [['1']]) = some ⟨.append, [['1']]⟩ := by
  have hwritings : severalSessions.filterMap (writing? .flat ['x']) =
      [⟨.replace, ["old".toList]⟩] ++ ⟨.replace, ["\x02L\r".toList, "1€".toList, "lost".toList]⟩ ::
        [⟨.append, ["E\n".toList]⟩] := by decide +kernel
  have hname : Directory.IsFileName ['x'] := ⟨by decide, by decide, by decide, by decide⟩
  obtain ⟨hkeeps, hends, -, hnamed⟩ := sessions_keep .flat [] severalSessions
  refine ⟨?_, ?_, hnamed _ _ _ _ _ hname rfl⟩
  · exact (hkeeps ['x']).replaced _ _ _ hwritings rfl (by decide)
  · obtain ⟨delivery, hdelivery, hend⟩ :=
      hends 1 _ ['x'] ⟨.replace, ["\x02L\r".toList, "1€".toList, "lost".toList]⟩ rfl
        (by decide +kernel)
    have hjob : "1€".toList ∈ ["\x02L\r".toList, "1€".toList, "lost".toList] :=
      List.mem_cons_of_mem _ List.mem_cons_self
    have hchar : '€' ∈ "1€".toList := by decide
    exact ⟨delivery, hdelivery, hend.fails.mpr ⟨_, hjob, _, hchar, by decide⟩⟩

end Session

end ThermalLabel
