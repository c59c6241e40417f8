import SecurityAgent.Auth.NullSafety

/-!
# The key file: `file_utils.c`, and its two readers

A shared access key stands in the first line of a file. Both readers read as much of the file as
their buffer has room for, look for the end of the line with `strchr`, and take what is
in front of it for the key. The buffer has been zeroed, but a file that fills it leaves
no zero in it, and `strchr` does not know where the buffer ends.
-/

namespace SecurityAgent

open Utils

/-- `FileResults`. -/
inductive FileResult where
  | ok
  | error
  | noPerm
  | fileNotFound
  | sizeMismatch
  deriving DecidableEq, Repr

/-- A file that is opened for reading. -/
inductive FileAnswer where
  /-- `open` fails with `ENOENT`, with `EACCES`, or with anything else. -/
  | notFound
  | denied
  | notOpened
  /-- `read` fails. -/
  | notRead
  | contents (bytes : List Char)

/-- `FileUtils_ReadFile`: its result, and what the memory at `data` holds afterwards. -/
def FileUtils.readFile (file : FileAnswer) (data : List Char) (readCount : Nat) (maxCount : Bool) :
    FileResult × List Char :=
  match file with
  | .notFound => (.fileNotFound, data)
  | .denied => (.noPerm, data)
  | .notOpened => (.error, data)
  | .notRead => (.error, data)
  | .contents bytes =>
      let read := bytes.take readCount
      let data := read ++ data.drop read.length
      if maxCount then (if read.length ≤ readCount then .ok else .error, data)
      else if read.length ≠ readCount then (.sizeMismatch, data)
      else (.ok, data)

/-- `strchr` in a buffer: where the character is, if it comes before the terminator. It is `none` when
the search leaves the buffer. -/
def strchr (c : Char) : List Char → Option (Option Nat)
  | [] => none
  | d :: rest =>
      if d = c then some (some 0)
      else if d = nul then some none
      else (strchr c rest).map (Option.map (· + 1))

/-- What a reader finds in its buffer. -/
inductive KeyRead where
  | failed
  /-- Something behind the buffer has been read. -/
  | outside
  | key (text : String)
  deriving DecidableEq

/-- `KEY_SIZE`, of both readers. -/
def KEY_SIZE : Nat := 300

/-- What both readers do first: the file is read and the new line omitted. -/
def readKey (file : FileAnswer) : KeyRead :=
  let (fileResult, sharedAccessKey) :=
    FileUtils.readFile file (List.replicate KEY_SIZE nul) KEY_SIZE true
  if fileResult ≠ .ok then .failed
  else
    match strchr '\n' sharedAccessKey with
    | none => .outside
    | some none => .key (cString sharedAccessKey)
    | some (some newLinePosition) => .key (cString (sharedAccessKey.set newLinePosition nul))

namespace AuthenticationManager

/-- `AuthenticationManager_InitFromSharedAccessKey`, with what is in memory. -/
def initFromKeyFile (malloc : Bool) (file : FileAnswer) (am : AuthenticationManager)
    (hostName deviceId : Option String) : Option (Bool × AuthenticationManager) :=
  if malloc = false then some (false, { am with sharedAccessKey := none })
  else
    match readKey file with
    | .failed => some (false, { am with sharedAccessKey := none })
    | .outside => none
    | .key text =>
        match ({ am with sharedAccessKey := some text }).initSharedProperties hostName deviceId with
        | none => none
        | some (false, am) => some (false, { am with sharedAccessKey := none })
        | some (true, am) => some (true, am)

end AuthenticationManager

namespace LocalConfiguration

/-- `LocalConfiguration_InitConnectionStringFromModule`, with what is in memory. -/
def initConnectionStringFromKeyFile (copyMalloc : Bool) (file : FileAnswer)
    (s : LocalConfiguration) (hostName deviceId : Option String) :
    Option (LocalConfigurationResult × LocalConfiguration) :=
  match readKey file with
  | .failed => some (.exception, s)
  | .outside => none
  | .key sharedAccessKey =>
      match AuthenticationManager.generateConnectionStringFromSharedAccessKey sharedAccessKey
          CONNECTION_STRING_SIZE (hostName.getD "(null)") (deviceId.getD "(null)") with
      | none => some (.exception, s)
      | some localConnectionString =>
          let (copied, copy) := createStringCopy copyMalloc s.connectionString
            (some localConnectionString)
          some (if copied then .ok else .exception, { s with connectionString := copy })

end LocalConfiguration

/-! ## What is read -/

/-- The first line of a file, without its end. -/
def firstLine (contents : List Char) : List Char := contents.takeWhile (· ≠ '\n')

/-- What a search for the end of the line passes over. -/
def inKey (c : Char) : Bool := c ≠ '\n' && c ≠ nul

/-- The buffer after a file has been read. -/
def keyBuffer (contents : List Char) : List Char :=
  contents.take KEY_SIZE ++ List.replicate (KEY_SIZE - contents.length) nul

theorem length_keyBuffer (contents : List Char) : (keyBuffer contents).length = KEY_SIZE := by
  unfold keyBuffer
  rw [List.length_append, List.length_take, List.length_replicate]
  omega

/-- The search stops at the first character that is not passed over. -/
theorem strchr_newLine (buffer : List Char) :
    strchr '\n' buffer =
      match buffer.dropWhile inKey with
      | [] => none
      | c :: _ => some (if c = '\n' then some (buffer.takeWhile inKey).length else none) := by
  induction buffer with
  | nil => rfl
  | cons d rest ih =>
      unfold strchr
      by_cases hline : d = '\n'
      · have hin : ¬ inKey d = true := by simp [inKey, hline]
        rw [if_pos hline, List.dropWhile_cons_of_neg hin, List.takeWhile_cons_of_neg hin]
        simp [hline]
      by_cases hend : d = nul
      · have hin : ¬ inKey d = true := by simp [inKey, hend]
        rw [if_neg hline, if_pos hend, List.dropWhile_cons_of_neg hin]
        simp [hline]
      · have hin : inKey d = true := by simp [inKey, hline, hend]
        rw [if_neg hline, if_neg hend, ih, List.dropWhile_cons_of_pos hin,
          List.takeWhile_cons_of_pos hin]
        cases rest.dropWhile inKey with
        | nil => rfl
        | cons c rest' =>
            by_cases hc : c = '\n' <;> simp [hc]

theorem not_mem_takeWhile_inKey (buffer : List Char) :
    nul ∉ buffer.takeWhile inKey ∧ '\n' ∉ buffer.takeWhile inKey := by
  have hin : ∀ c ∈ buffer.takeWhile inKey, inKey c = true := fun c hc =>
    List.all_eq_true.mp List.all_takeWhile c hc
  exact ⟨fun h => absurd (hin nul h) (by decide), fun h => absurd (hin '\n' h) (by decide)⟩

/-- **What a reader takes for the key**: what the search passes over, if the search ends. -/
theorem readKey_contents (contents : List Char) :
    readKey (.contents contents) =
      match (keyBuffer contents).dropWhile inKey with
      | [] => .outside
      | _ :: _ => .key (String.ofList ((keyBuffer contents).takeWhile inKey)) := by
  have hbuffer : FileUtils.readFile (.contents contents) (List.replicate KEY_SIZE nul) KEY_SIZE true
      = (.ok, keyBuffer contents) := by
    have hle : (contents.take KEY_SIZE).length ≤ KEY_SIZE := List.length_take_le _ _
    have hrest : KEY_SIZE - (contents.take KEY_SIZE).length = KEY_SIZE - contents.length := by
      rw [List.length_take]
      omega
    unfold FileUtils.readFile keyBuffer
    dsimp only
    rw [if_pos rfl, if_pos hle, List.drop_replicate, hrest]
  have hsplit : (keyBuffer contents).takeWhile inKey ++ (keyBuffer contents).dropWhile inKey
      = keyBuffer contents := List.takeWhile_append_dropWhile
  obtain ⟨hnul, -⟩ := not_mem_takeWhile_inKey (keyBuffer contents)
  unfold readKey
  rw [hbuffer]
  dsimp only
  rw [if_neg (by simp), strchr_newLine]
  cases hstop : (keyBuffer contents).dropWhile inKey with
  | nil => rfl
  | cons c rest =>
      have hc : inKey c = false := by
        have hhead := List.head?_dropWhile_not inKey (keyBuffer contents)
        rwa [hstop, List.head?_cons] at hhead
      rw [hstop] at hsplit
      generalize (keyBuffer contents).takeWhile inKey = front at hsplit hnul
      rw [← hsplit]
      by_cases hline : c = '\n'
      · -- the new line is overwritten with a terminator
        simp only [hline, if_true]
        rw [List.set_append_right _ _ (Nat.le_refl _), Nat.sub_self, List.set_cons_zero,
          cString_append_nul hnul]
      · obtain rfl : c = nul := by simpa [inKey, hline] using hc
        simp only [hline, if_false]
        rw [cString_append_nul hnul]

/-! ## What is asked of the readers -/

/-- A reader fails, or what it has read is the first line, with room for its terminator. It does not
leave the buffer. -/
def FailsOrReads {α : Type} (file : FileAnswer) (answer : Option α) (succeeds : α → Bool)
    (key : α → String → Prop) : Prop :=
  ∃ outcome, answer = some outcome ∧ (succeeds outcome = true →
    ∃ contents, file = .contents contents ∧ (firstLine contents).length < KEY_SIZE
      ∧ key outcome (String.ofList (firstLine contents)))

/-- What is asked of both readers, whatever they are called with and whatever else happens. -/
structure ReadsFirstLine (file : FileAnswer) : Prop where
  manager : ∀ (malloc : Bool) (am : AuthenticationManager) (hostName deviceId : String),
    FailsOrReads file (am.initFromKeyFile malloc file (some hostName) (some deviceId))
      (fun outcome => outcome.1) fun outcome key => outcome.2.sharedAccessKey = some key
  localConfiguration : ∀ (copyMalloc : Bool) (s : LocalConfiguration) (hostName deviceId : String),
    FailsOrReads file (s.initConnectionStringFromKeyFile copyMalloc file hostName deviceId)
      (fun outcome => outcome.1 = .ok) fun outcome key => outcome.2.connectionString
        = some (AuthenticationManager.generatedConnectionString hostName deviceId key)

/-- The first line of a file fits the buffer with its terminator, and there is no terminator in
it. -/
def FirstLineFits : FileAnswer → Prop
  | .contents contents => (firstLine contents).length < KEY_SIZE ∧ nul ∉ firstLine contents
  | .notFound | .denied | .notOpened | .notRead => True

/-- A line that fits is what the search passes over. -/
theorem readKey_of_fits {contents : List Char} (h : FirstLineFits (.contents contents)) :
    readKey (.contents contents) = .key (String.ofList (firstLine contents)) := by
  obtain ⟨hlen, hnul⟩ := h
  have hin : ∀ c ∈ firstLine contents, inKey c = true := by
    intro c hc
    have hline : c ≠ '\n' := of_decide_eq_true (List.all_eq_true.mp List.all_takeWhile c hc)
    have hend : c ≠ nul := fun heq => hnul (heq ▸ hc)
    simp [inKey, hline, hend]
  have hsplit : firstLine contents ++ contents.dropWhile (· ≠ '\n') = contents :=
    List.takeWhile_append_dropWhile
  -- the line is followed by its end, or by the zeros of the buffer
  obtain ⟨c, rest, hbuffer, hc⟩ : ∃ c rest, keyBuffer contents = firstLine contents ++ c :: rest
      ∧ inKey c = false := by
    unfold keyBuffer
    cases hafter : contents.dropWhile (· ≠ '\n') with
    | nil =>
        rw [hafter, List.append_nil] at hsplit
        obtain ⟨n, hroom⟩ := Nat.exists_eq_succ_of_ne_zero (Nat.sub_ne_zero_of_lt hlen)
        refine ⟨nul, List.replicate n nul, ?_, by decide⟩
        rw [hsplit] at hlen hroom ⊢
        rw [List.take_of_length_le (Nat.le_of_lt hlen), hroom, List.replicate_succ]
    | cons d after =>
        have hd : d = '\n' := by
          have hhead := List.head?_dropWhile_not (· ≠ '\n') contents
          rw [hafter, List.head?_cons] at hhead
          simpa using hhead
        obtain ⟨n, hroom⟩ := Nat.exists_eq_succ_of_ne_zero (Nat.sub_ne_zero_of_lt hlen)
        rw [hafter, hd] at hsplit
        refine ⟨'\n', after.take n ++ List.replicate (KEY_SIZE - contents.length) nul, ?_, by decide⟩
        conv_lhs => rw [← hsplit]
        rw [List.take_append, List.take_of_length_le (Nat.le_of_lt hlen), hroom, List.take_succ_cons,
          List.append_assoc, List.cons_append, hsplit]
  rw [readKey_contents, hbuffer, Scanf.dropWhile_append_stops hin (Scanf.Stops.cons hc _),
    Scanf.takeWhile_append_stops hin (Scanf.Stops.cons hc _)]

theorem readKey_cases {file : FileAnswer} (h : FirstLineFits file) :
    readKey file = .failed ∨ ∃ contents, file = .contents contents
      ∧ (firstLine contents).length < KEY_SIZE
      ∧ readKey file = .key (String.ofList (firstLine contents)) := by
  cases file with
  | notFound | denied | notOpened | notRead => exact Or.inl rfl
  | contents contents => exact Or.inr ⟨contents, rfl, h.1, readKey_of_fits h⟩

/-- Of a key that is the first line no character has been lost. -/
theorem nul_not_mem_of_readKey {contents : List Char}
    (h : readKey (.contents contents) = .key (String.ofList (firstLine contents))) :
    nul ∉ firstLine contents := by
  rw [readKey_contents] at h
  split at h
  · exact absurd h (by simp)
  · have hline := String.ofList_injective (KeyRead.key.inj h)
    rw [← hline]
    exact (not_mem_takeWhile_inKey _).1

theorem manager_reads {file : FileAnswer} (h : FirstLineFits file) (malloc : Bool)
    (am : AuthenticationManager) (hostName deviceId : String) :
    FailsOrReads file (am.initFromKeyFile malloc file (some hostName) (some deviceId))
      (fun outcome => outcome.1) fun outcome key => outcome.2.sharedAccessKey = some key := by
  unfold AuthenticationManager.initFromKeyFile
  cases malloc with
  | false => exact ⟨_, rfl, fun h => absurd h Bool.false_ne_true⟩
  | true =>
      rw [if_neg Bool.true_eq_false.mp]
      rcases readKey_cases h with hfailed | ⟨contents, hfile, hlen, hkey⟩
      · rw [hfailed]
        exact ⟨_, rfl, fun h => absurd h Bool.false_ne_true⟩
      · obtain ⟨result, am', hshared, hsame⟩ := AuthenticationManager.initSharedProperties_total
          { am with sharedAccessKey := some (String.ofList (firstLine contents)) } hostName deviceId
        rw [hkey]
        dsimp only
        rw [hshared]
        cases result with
        | false => exact ⟨_, rfl, fun h => absurd h Bool.false_ne_true⟩
        | true => exact ⟨_, rfl, fun _ => ⟨contents, hfile, hlen, hsame.sharedAccessKey⟩⟩

theorem localConfiguration_reads {file : FileAnswer} (h : FirstLineFits file) (copyMalloc : Bool)
    (s : LocalConfiguration) (hostName deviceId : String) :
    FailsOrReads file (s.initConnectionStringFromKeyFile copyMalloc file hostName deviceId)
      (fun outcome => outcome.1 = .ok) fun outcome key => outcome.2.connectionString
        = some (AuthenticationManager.generatedConnectionString hostName deviceId key) := by
  unfold LocalConfiguration.initConnectionStringFromKeyFile
  rcases readKey_cases h with hfailed | ⟨contents, hfile, hlen, hkey⟩
  · rw [hfailed]
    exact ⟨_, rfl, fun h => by simp at h⟩
  · rw [hkey]
    dsimp only
    unfold AuthenticationManager.generateConnectionStringFromSharedAccessKey
      Utils.concatenateToString
    rw [String.empty_append]
    by_cases hlong : (AuthenticationManager.generatedConnectionString ((some hostName).getD "(null)")
        ((some deviceId).getD "(null)") (String.ofList (firstLine contents))).length
          ≥ LocalConfiguration.CONNECTION_STRING_SIZE
    · rw [if_pos hlong]
      exact ⟨_, rfl, fun h => by simp at h⟩
    · rw [if_neg hlong]
      cases copyMalloc with
      | false => exact ⟨_, rfl, fun h => by simp [createStringCopy] at h⟩
      | true => exact ⟨_, rfl, fun _ => ⟨contents, hfile, hlen, rfl⟩⟩

/-- **Both readers are right about the files whose first line fits**, and about no others. -/
theorem readsFirstLine_iff (file : FileAnswer) : ReadsFirstLine file ↔ FirstLineFits file := by
  constructor
  · intro h
    cases file with
    | notFound | denied | notOpened | notRead => trivial
    | contents contents =>
        obtain ⟨⟨result, am'⟩, hanswer, hreads⟩ := h.manager true .init "" ""
        unfold AuthenticationManager.initFromKeyFile at hanswer
        rw [if_neg Bool.true_eq_false.mp] at hanswer
        cases hread : readKey (.contents contents) with
        | failed =>
            rw [readKey_contents] at hread
            split at hread <;> exact absurd hread (by simp)
        | outside =>
            rw [hread] at hanswer
            exact absurd hanswer (by simp)
        | key text =>
            obtain ⟨am'', hshared, hsame⟩ := AuthenticationManager.initSharedProperties_empty
              { AuthenticationManager.init with sharedAccessKey := some text }
            rw [hread] at hanswer
            dsimp only at hanswer
            rw [hshared] at hanswer
            obtain ⟨rfl, rfl⟩ := Prod.mk.inj (Option.some.inj hanswer)
            obtain ⟨contents', hfile, hlen, hkey⟩ := hreads rfl
            obtain rfl := FileAnswer.contents.inj hfile
            have htext : some text = some (String.ofList (firstLine contents)) :=
              hsame.sharedAccessKey.symm.trans hkey
            rw [Option.some.inj htext] at hread
            exact ⟨hlen, nul_not_mem_of_readKey hread⟩
  · exact fun h => ⟨manager_reads h, localConfiguration_reads h⟩

/-- **A key of 300 characters leaves no room for the terminator.** -/
theorem long_key_leaves_buffer : ¬ ReadsFirstLine (.contents (List.replicate 300 'a')) := by
  intro h
  obtain ⟨outcome, hanswer, -⟩ := h.manager true .init "" ""
  have hread : readKey (.contents (List.replicate 300 'a')) = .outside := by decide +kernel
  unfold AuthenticationManager.initFromKeyFile at hanswer
  rw [if_neg Bool.true_eq_false.mp, hread] at hanswer
  exact absurd hanswer (by simp)

/-! ## The readers that are given what is in the file -/

/-- What the search passes over is in the file. -/
theorem takeWhile_inKey_keyBuffer (contents : List Char) :
    (keyBuffer contents).takeWhile inKey = (contents.take KEY_SIZE).takeWhile inKey := by
  have hzeros : (List.replicate (KEY_SIZE - contents.length) nul).takeWhile inKey = [] := by
    cases KEY_SIZE - contents.length with
    | zero => rfl
    | succ n => exact List.takeWhile_cons_of_neg (by decide)
  unfold keyBuffer
  rw [List.takeWhile_append]
  split
  · next hall =>
      rw [hzeros, List.append_nil]
      exact ((List.takeWhile_prefix inKey).eq_of_length hall).symm
  · rfl

theorem takeWhile_inKey (bytes : List Char) :
    bytes.takeWhile inKey = (bytes.takeWhile (· ≠ '\n')).takeWhile (· ≠ nul) := by
  have hne : nul ≠ '\n' := by decide
  induction bytes with
  | nil => rfl
  | cons c rest ih =>
      by_cases hline : c = '\n' <;> by_cases hend : c = nul <;>
        simp [inKey, hline, hend, hne, ih]

/-- So the key is what is made of the text in the file, unless the search leaves the buffer. -/
theorem readKey_eq {contents : List Char} (h : readKey (.contents contents) ≠ .outside) :
    readKey (.contents contents)
      = .key (cString ((contents.take KEY_SIZE).takeWhile (· ≠ '\n'))) := by
  rw [readKey_contents] at h ⊢
  split at h
  · exact absurd rfl h
  · rw [takeWhile_inKey_keyBuffer, takeWhile_inKey]
    rfl

theorem initFromKeyFile_eq {contents : List Char} (h : readKey (.contents contents) ≠ .outside)
    (malloc : Bool) (certificateFile : Option (Option String × Option String))
    (am : AuthenticationManager) (hostName deviceId : Option String) :
    am.initFromKeyFile malloc (.contents contents) hostName deviceId
      = am.initFromSharedAccessKey
        ⟨malloc, some (String.ofList (contents.take KEY_SIZE)), certificateFile⟩ hostName deviceId := by
  unfold AuthenticationManager.initFromKeyFile AuthenticationManager.initFromSharedAccessKey
  rw [readKey_eq h]
  dsimp only
  rewrite [String.toList_ofList]
  cases malloc with
  | false => rfl
  | true =>
      generalize AuthenticationManager.initSharedProperties _ hostName deviceId = shared
      rcases shared with _ | ⟨_ | _, am'⟩ <;> rfl

theorem initConnectionStringFromKeyFile_eq {contents : List Char}
    (h : readKey (.contents contents) ≠ .outside) (o : AuthenticationAnswer)
    (s : LocalConfiguration) (hostName deviceId : Option String) :
    s.initConnectionStringFromKeyFile o.copyMalloc (.contents contents) hostName deviceId
      = some (LocalConfiguration.initConnectionStringFromModule
        { o with moduleKeyFile := some (String.ofList (contents.take KEY_SIZE)) } s hostName
          deviceId) := by
  unfold LocalConfiguration.initConnectionStringFromKeyFile
    LocalConfiguration.initConnectionStringFromModule
  rw [readKey_eq h]
  dsimp only
  rw [String.toList_ofList]
  generalize AuthenticationManager.generateConnectionStringFromSharedAccessKey _ _ _ _ = generated
  cases generated <;> rfl

end SecurityAgent
