import CoreEngine.Smsd.ConfigHeap

/-!
# What reloads leave in memory

While a file is loaded, every block is one of the new configuration, one of somebody else, or a string that has
been overwritten. So it can be said what is left after any number of reloads, and when `deleteConfig` frees
only what it may.
-/

namespace CoreEngine.Smsd

open CoreEngine.Memory
open Heap (Accounts)

section Loading

/-- The blocks of a configuration that is being loaded. The strings that have been allocated for it are its own
or have been overwritten; `rest` are the blocks of others. -/
def Kept (heap : Heap CString) (structs strings rest : Multiset ℕ) (allocated : ℕ) : Prop :=
  ∃ lost, Accounts heap (structs + strings) (lost + rest) ∧ lost.card + strings.card = allocated

variable {heap : Heap CString} {structs strings rest : Multiset ℕ} {allocated address : ℕ}

theorem Kept.live (hkept : Kept heap structs strings rest allocated) (haddress : address ∈ strings) :
    address ∈ heap := by
  obtain ⟨lost, haccounts, -⟩ := hkept
  exact haccounts.mem (Multiset.mem_add.2 (.inr haddress))

/-- A pointer gets a new string, and its old one is lost. -/
theorem Kept.assign {strings' old others : Multiset ℕ} (hkept : Kept heap structs strings rest allocated)
    (hfresh : address ∉ heap) (text : CString) (hold : strings = old + others)
    (hnew : strings' = {address} + others) :
    Kept (heap.insert address text) structs strings' rest (allocated + 1) := by
  obtain ⟨lost, haccounts, hcount⟩ := hkept
  rw [hold, add_left_comm] at haccounts
  refine ⟨old + lost, ?_, ?_⟩
  · have halloc := haccounts.lose.alloc hfresh text
    rwa [← Multiset.singleton_add, add_left_comm, ← add_assoc old, ← hnew] at halloc
  · rw [hold] at hcount
    rw [hnew]
    simp only [Multiset.card_add, Multiset.card_singleton] at hcount ⊢
    omega

theorem Kept.allocStruct (hkept : Kept heap structs strings rest allocated) (hfresh : address ∉ heap) :
    Kept (heap.insert address []) ({address} + structs) strings rest allocated := by
  obtain ⟨lost, haccounts, hcount⟩ := hkept
  refine ⟨lost, ?_, hcount⟩
  rw [add_assoc, Multiset.singleton_add]
  exact haccounts.alloc hfresh []

theorem Kept.freeStruct (hkept : Kept heap ({address} + structs) strings rest allocated) :
    heap.free address = some (heap.erase address) ∧ Kept (heap.erase address) structs strings rest allocated := by
  obtain ⟨lost, haccounts, hcount⟩ := hkept
  rw [add_assoc, Multiset.singleton_add] at haccounts
  exact ⟨haccounts.free.1, lost, haccounts.free.2, hcount⟩

/-- The memory holds a configuration, and `allocated` strings went into it. -/
structure Mirrors (rest : Multiset ℕ) (allocated : ℕ) (s : HeapLoading) (config : FileConf) : Prop where
  read : s.config.read s.heap = config
  kept : Kept s.heap s.config.structs s.config.strings rest allocated

variable {allocator : Allocator CString} {memory : Memory} {s : HeapLoading} {config : FileConf}

/-- A new block leaves what a configuration says alone. -/
theorem Kept.read_insert {config : HeapConf} (hkept : Kept heap config.structs config.strings rest allocated)
    (hfresh : address ∉ heap) (text : CString) : config.read (heap.insert address text) = config.read heap :=
  config.read_congr fun _ hmem ↦ Heap.lookup_insert_of_mem (hkept.live hmem) hfresh text

theorem HeapConf.read_setText {config : HeapConf} {text : CString} (field : TextField)
    (hlookup : heap.lookup address = some text) :
    HeapConf.read heap { config with texts := Function.update config.texts field (some address) } =
      (config.read heap).setText field text := by
  unfold HeapConf.read FileConf.setText
  congr 1
  funext field'
  by_cases hfield : field' = field
  · subst hfield
    simp [hlookup]
  · simp [hfield]

theorem Mirrors.setText (hs : Mirrors rest allocated s config) (field : TextField) (text : CString) :
    Mirrors rest (allocated + 1) (s.setText allocator field text) (config.setText field text) where
  read := by
    refine (HeapConf.read_setText field (AList.lookup_insert _)).trans ?_
    rw [hs.kept.read_insert (allocator.fresh s.heap), hs.read]
  kept := by
    obtain ⟨others, hstrings⟩ := s.config.strings_texts
    obtain ⟨texts, hold, hnew⟩ := exists_sum_update blockOf s.config.texts field (some (allocator.pick s.heap))
    have hbefore : s.config.strings = blockOf (s.config.texts field) + (texts + others) := by
      rw [← add_assoc, ← hold]
      exact hstrings _
    have hafter : (s.setText allocator field text).config.strings = {allocator.pick s.heap} + (texts + others) := by
      rw [← add_assoc]
      exact (hstrings _).trans (congrArg (· + others) hnew)
    exact hs.kept.assign (allocator.fresh s.heap) text hbefore hafter

section Elements

variable {ι : Type} [Fintype ι] [DecidableEq ι] {array : List (ι → Ref)} {field : ι}

omit [DecidableEq ι] in
theorem elementBlocks_append (array : List (ι → Ref)) (element : ι → Ref) :
    elementBlocks (array ++ [element]) = ∑ field, (element field).blocks + elementBlocks array := by
  unfold elementBlocks
  rw [← Multiset.coe_add, Multiset.add_bind, Multiset.coe_singleton, Multiset.singleton_bind, add_comm]

/-- A pointer of the last element is overwritten. -/
theorem exists_elementBlocks_modifyLast (harray : array ≠ []) (field : ι) (address : ℕ) :
    ∃ old others, elementBlocks array = old + others ∧
      elementBlocks (array.modifyLast fun element ↦ Function.update element field (.block address)) =
        {address} + others := by
  obtain ⟨before, last, rfl⟩ := List.eq_nil_or_concat' array |>.resolve_left harray
  obtain ⟨others, hold, hnew⟩ := exists_sum_update Ref.blocks last field (.block address)
  refine ⟨(last field).blocks, others + elementBlocks before, ?_, ?_⟩
  · rw [elementBlocks_append, hold, add_assoc]
  · rw [List.modifyLast_concat, elementBlocks_append, hnew, add_assoc]
    rfl

omit [Fintype ι] in
theorem pointers_modifyLast {text : CString} (hlookup : heap.lookup address = some text) :
    ((array.modifyLast fun element ↦ Function.update element field (.block address)).map
        fun element field ↦ (element field).pointer heap) =
      (array.map fun element field ↦ (element field).pointer heap).modifyLast
        fun element ↦ Function.update element field (.text text) := by
  rcases List.eq_nil_or_concat' array with rfl | ⟨before, last, rfl⟩
  · rfl
  · rw [List.modifyLast_concat, List.map_append, List.map_append, List.map_singleton, List.map_singleton,
      List.modifyLast_concat]
    congr 2
    funext field'
    by_cases hfield : field' = field
    · subst hfield
      simp [Ref.pointer, hlookup]
    · simp [hfield]

end Elements

theorem Mirrors.setSms (hs : Mirrors rest allocated s config) (harray : config.smsNumber ≠ 0) (field : SmsField)
    (text : CString) : ∃ s', s.setSms allocator field text = some s' ∧ s'.err = s.err ∧ s'.lines = s.lines ∧
      Mirrors rest (allocated + 1) s' { config with
        smsArray := config.smsArray.modifyLast fun sms ↦ Function.update sms field (.text text) } := by
  have hsome : s.config.smsArray ≠ [] := by
    rw [← hs.read] at harray
    simpa [HeapConf.read, FileConf.smsNumber] using harray
  refine ⟨_, if_neg hsome, rfl, rfl, ?_, ?_⟩
  · have hread := hs.kept.read_insert (allocator.fresh s.heap) text
    rw [← hs.read, ← hread]
    simp only [HeapConf.read]
    rw [pointers_modifyLast (AList.lookup_insert _)]
  · obtain ⟨others, hstrings⟩ := s.config.strings_smsArray
    obtain ⟨old, array, hold, hnew⟩ := exists_elementBlocks_modifyLast hsome field (allocator.pick s.heap)
    have hbefore : s.config.strings = old + (array + others) := by
      rw [← add_assoc, ← hold]
      exact hstrings _
    refine hs.kept.assign (allocator.fresh s.heap) text hbefore ?_
    rw [← add_assoc, ← hnew]
    exact hstrings _

theorem Mirrors.setSyslog (hs : Mirrors rest allocated s config) (harray : config.syslogNumber ≠ 0)
    (text : CString) : ∃ s', s.setSyslog allocator text = some s' ∧ s'.err = s.err ∧ s'.lines = s.lines ∧
      Mirrors rest (allocated + 1) s' { config with
        syslogArray := config.syslogArray.modifyLast fun syslog ↦
          Function.update syslog .syslogAddIp (.text text) } := by
  have hsome : s.config.syslogArray ≠ [] := by
    rw [← hs.read] at harray
    simpa [HeapConf.read, FileConf.syslogNumber] using harray
  refine ⟨_, if_neg hsome, rfl, rfl, ?_, ?_⟩
  · have hread := hs.kept.read_insert (allocator.fresh s.heap) text
    rw [← hs.read, ← hread]
    simp only [HeapConf.read]
    rw [pointers_modifyLast (AList.lookup_insert _)]
  · obtain ⟨others, hstrings⟩ := s.config.strings_syslogArray
    obtain ⟨old, array, hold, hnew⟩ := exists_elementBlocks_modifyLast hsome .syslogAddIp (allocator.pick s.heap)
    have hbefore : s.config.strings = old + (array + others) := by
      rw [← add_assoc, ← hold]
      exact hstrings _
    refine hs.kept.assign (allocator.fresh s.heap) text hbefore ?_
    rw [← add_assoc, ← hnew]
    exact hstrings _

/-- `realloc` moves the block of an array and leaves the strings alone. -/
theorem Kept.realloc {block : Option ℕ} {others : Multiset ℕ}
    (hkept : Kept heap (blockOf block + others) strings rest allocated) :
    ∃ address heap', realloc allocator heap block = some (address, heap') ∧
      Kept heap' ({address} + others) strings rest allocated ∧
      ∀ address ∈ strings, heap'.lookup address = heap.lookup address := by
  cases block with
  | none =>
    have hothers : Kept heap others strings rest allocated := by simpa [blockOf] using hkept
    exact ⟨_, _, rfl, hothers.allocStruct (allocator.fresh heap), fun address haddress ↦
      Heap.lookup_insert_of_mem (hothers.live haddress) (allocator.fresh heap) []⟩
  | some old =>
    obtain ⟨hfree, hothers⟩ := Kept.freeStruct hkept
    refine ⟨_, _, congrArg (Option.map _) hfree, hothers.allocStruct (allocator.fresh _), fun address haddress ↦ ?_⟩
    rw [Heap.lookup_insert_of_mem (hothers.live haddress) (allocator.fresh _), AList.lookup_erase_ne]
    rintro rfl
    exact absurd (hothers.live haddress) fun hmem ↦ (AList.mem_erase.1 hmem).1 rfl

theorem Leftover.pointer_ref (leftover : Leftover) : leftover.ref.pointer heap = leftover.pointer := by
  cases leftover <;> rfl

theorem elementBlocks_open {ι : Type} [Fintype ι] (array : List (ι → Ref)) (leftover : ι → Leftover) :
    elementBlocks (array ++ [fun field ↦ (leftover field).ref]) = elementBlocks array := by
  have hnone : ∑ field, (leftover field).ref.blocks = 0 := by
    refine Finset.sum_eq_zero fun field _ ↦ ?_
    cases leftover field <;> rfl
  rw [elementBlocks_append, hnone, zero_add]

/-- A header adds an element, with what its memory held. -/
theorem Mirrors.openSms (hs : Mirrors rest allocated s config) (disaster : Bool) (arg : CString) :
    ∃ s', s.apply allocator memory (.smsSection disaster) arg = some s' ∧ s'.err = s.err ∧ s'.lines = s.lines ∧
      Mirrors rest allocated s' { config with
        smsArray := config.smsArray ++ [fun field ↦ (memory.sms config.smsNumber field).pointer] } := by
  obtain ⟨others, hstructs⟩ := s.config.structs_smsBlock
  have hkept : Kept s.heap (blockOf s.config.smsBlock + others) s.config.strings rest allocated :=
    hstructs _ ▸ hs.kept
  obtain ⟨address, heap, hrealloc, hkept', hlookup⟩ := hkept.realloc
  refine ⟨_, congrArg (Option.map _) hrealloc, rfl, rfl, ?_, ?_⟩
  · rw [← hs.read, ← s.config.read_congr hlookup]
    simp [HeapConf.read, FileConf.smsNumber, Leftover.pointer_ref]
  · obtain ⟨rest', hstrings⟩ := s.config.strings_smsArray
    have hsame : elementBlocks (s.config.smsArray ++
        [fun field ↦ (memory.sms s.config.smsArray.length field).ref]) + rest' = s.config.strings := by
      rw [elementBlocks_open]
      exact (hstrings _).symm
    exact (congrArg₂ (Kept heap · · rest allocated) (hstructs (some address)) ((hstrings _).trans hsame)).mpr hkept'

theorem Mirrors.openSyslog (hs : Mirrors rest allocated s config) (disaster : Bool) (arg : CString) :
    ∃ s', s.apply allocator memory (.syslogSection disaster) arg = some s' ∧ s'.err = s.err ∧
      s'.lines = s.lines ∧ Mirrors rest allocated s' { config with
        syslogArray := config.syslogArray ++ [fun field ↦ (memory.syslog config.syslogNumber field).pointer] } := by
  obtain ⟨others, hstructs⟩ := s.config.structs_syslogBlock
  have hkept : Kept s.heap (blockOf s.config.syslogBlock + others) s.config.strings rest allocated :=
    hstructs _ ▸ hs.kept
  obtain ⟨address, heap, hrealloc, hkept', hlookup⟩ := hkept.realloc
  refine ⟨_, congrArg (Option.map _) hrealloc, rfl, rfl, ?_, ?_⟩
  · rw [← hs.read, ← s.config.read_congr hlookup]
    simp [HeapConf.read, FileConf.syslogNumber, Leftover.pointer_ref]
  · obtain ⟨rest', hstrings⟩ := s.config.strings_syslogArray
    have hsame : elementBlocks (s.config.syslogArray ++
        [fun field ↦ (memory.syslog s.config.syslogArray.length field).ref]) + rest' = s.config.strings := by
      rw [elementBlocks_open]
      exact (hstrings _).symm
    exact (congrArg₂ (Kept heap · · rest allocated) (hstructs (some address)) ((hstrings _).trans hsame)).mpr hkept'

theorem Kept.newEntry (hs : Kept s.heap structs strings rest allocated) (text : CString) :
    Kept (s.newEntry allocator text).2 ({(s.newEntry allocator text).1.self} + structs)
        ({(s.newEntry allocator text).1.val} + strings) rest (allocated + 1) ∧
      (s.newEntry allocator text).2.lookup (s.newEntry allocator text).1.val = some text ∧
      ∀ address ∈ strings, (s.newEntry allocator text).2.lookup address = s.heap.lookup address := by
  have hself := hs.allocStruct (allocator.fresh s.heap)
  refine ⟨hself.assign (allocator.fresh _) text (zero_add strings).symm rfl, AList.lookup_insert _,
    fun address haddress ↦ ?_⟩
  refine (Heap.lookup_insert_of_mem (hself.live haddress) (allocator.fresh _) text).trans ?_
  exact Heap.lookup_insert_of_mem (hs.live haddress) (allocator.fresh s.heap) []

theorem Mirrors.addJsacmd (hs : Mirrors rest allocated s config) (arg : CString) :
    ∃ s', s.apply allocator memory .jsacmd arg = some s' ∧ s'.err = s.err ∧ s'.lines = s.lines ∧
      Mirrors rest (allocated + 1) s' { config with jsacmdList := config.jsacmdList ++ [arg] } := by
  obtain ⟨hkept, hval, hlookup⟩ := @Kept.newEntry _ _ _ _ allocator _ hs.kept arg
  refine ⟨_, rfl, rfl, rfl, ?_, ?_⟩
  · rw [← hs.read, ← s.config.read_congr hlookup]
    simp [HeapConf.read, hval]
  · have hstructs : HeapConf.structs
        { s.config with jsacmdList := s.config.jsacmdList ++ [(s.newEntry allocator arg).1] } =
        {(s.newEntry allocator arg).1.self} + s.config.structs := by
      simp only [HeapConf.structs, List.map_append, List.map_singleton, ← Multiset.coe_add, Multiset.coe_singleton]
      abel
    have hstrings : HeapConf.strings
        { s.config with jsacmdList := s.config.jsacmdList ++ [(s.newEntry allocator arg).1] } =
        {(s.newEntry allocator arg).1.val} + s.config.strings := by
      simp only [HeapConf.strings, List.map_append, List.map_singleton, ← Multiset.coe_add, Multiset.coe_singleton]
      abel
    exact (congrArg₂ (Kept _ · · rest (allocated + 1)) hstructs hstrings).mpr hkept

theorem Mirrors.addJsacustcmd (hs : Mirrors rest allocated s config) (arg : CString) :
    ∃ s', s.apply allocator memory .jsacustcmd arg = some s' ∧ s'.err = s.err ∧ s'.lines = s.lines ∧
      Mirrors rest (allocated + 1) s' { config with jsacustcmdList := config.jsacustcmdList ++ [arg] } := by
  obtain ⟨hkept, hval, hlookup⟩ := @Kept.newEntry _ _ _ _ allocator _ hs.kept arg
  refine ⟨_, rfl, rfl, rfl, ?_, ?_⟩
  · rw [← hs.read, ← s.config.read_congr hlookup]
    simp [HeapConf.read, hval]
  · have hstructs : HeapConf.structs
        { s.config with jsacustcmdList := s.config.jsacustcmdList ++ [(s.newEntry allocator arg).1] } =
          {(s.newEntry allocator arg).1.self} + s.config.structs := by
      simp only [HeapConf.structs, List.map_append, List.map_singleton, ← Multiset.coe_add, Multiset.coe_singleton]
      abel
    have hstrings : HeapConf.strings
        { s.config with jsacustcmdList := s.config.jsacustcmdList ++ [(s.newEntry allocator arg).1] } =
          {(s.newEntry allocator arg).1.val} + s.config.strings := by
      simp only [HeapConf.strings, List.map_append, List.map_singleton, ← Multiset.coe_add, Multiset.coe_singleton]
      abel
    exact (congrArg₂ (Kept _ · · rest (allocated + 1)) hstructs hstrings).mpr hkept

theorem modifyLast_modifyLast {α : Type} (f g : α → α) (l : List α) :
    (l.modifyLast f).modifyLast g = l.modifyLast fun a ↦ g (f a) := by
  rcases List.eq_nil_or_concat' l with rfl | ⟨before, last, rfl⟩
  · rfl
  · rw [List.modifyLast_concat, List.modifyLast_concat, List.modifyLast_concat]

/-- A directive does to the memory what it does to the configuration. -/
theorem Mirrors.apply {v v' : Loading} {directive : Directive} {arg : CString}
    (hs : Mirrors rest allocated s v.config) (hlines : s.lines = v.lines)
    (happly : v.apply memory directive arg = .inl v') :
    ∃ s', s.apply allocator memory directive arg = some s' ∧ s'.err = s.err ∧ s'.lines = s.lines ∧
      Mirrors rest (allocated + directive.strings) s' v'.config := by
  cases directive with
  | smsSection disaster =>
    rw [← Sum.inl.inj happly]
    exact hs.openSms disaster arg
  | syslogSection disaster =>
    rw [← Sum.inl.inj happly]
    exact hs.openSyslog disaster arg
  | text field =>
    rw [← Sum.inl.inj happly]
    exact ⟨_, rfl, rfl, rfl, hs.setText field arg⟩
  | path field =>
    refine ⟨_, rfl, rfl, rfl, ?_⟩
    have hconfig : v'.config = v.config.setText field
        (if arg.getLastD (memory.before s.lines) = '/' then arg.dropLast else arg) := by
      rw [← Sum.inl.inj happly, hlines]
      unfold Loading.setPath
      split_ifs <;> rfl
    rw [hconfig]
    exact hs.setText field _
  | number field =>
    rw [← Sum.inl.inj happly]
    refine ⟨_, rfl, rfl, rfl, ?_, hs.kept⟩
    rw [← hs.read]
    rfl
  | sms field =>
    obtain ⟨hnone, -, hconfig, harray⟩ := Loading.setSms_eq_inl happly
    rw [hconfig, harray]
    exact hs.setSms hnone field arg
  | mask =>
    obtain ⟨hnone, -, hconfig, harray⟩ := Loading.setSms_eq_inl happly
    obtain ⟨s₁, hset, herr, hlines', hs₁⟩ := @Mirrors.setSms _ _ allocator _ _ hs hnone .smsMaskIp arg
    have hstill :
        (v.config.smsArray.modifyLast fun sms ↦ Function.update sms .smsMaskIp (.text arg)).length ≠ 0 := by
      rw [Loading.length_modifyLast _ hnone]
      exact hnone
    obtain ⟨s₂, hset', herr', hlines'', hs₂⟩ := @Mirrors.setSms _ _ allocator _ _ hs₁ hstill .smsInvertedMaskIp
      (memory.invertedMask (v.config.smsNumber - 1) arg)
    have hlength : s.config.smsArray.length = v.config.smsNumber := by
      rw [← hs.read]
      simp [HeapConf.read, FileConf.smsNumber]
    rw [← hlength] at hset'
    rw [modifyLast_modifyLast] at hs₂
    rw [hconfig, harray]
    exact ⟨s₂, (congrArg (Option.bind · _) hset).trans hset', herr'.trans herr, hlines''.trans hlines', hs₂⟩
  | syslogServer =>
    obtain ⟨hnone, -, hconfig, harray⟩ := Loading.setSyslog_eq_inl happly
    rw [hconfig, harray]
    exact hs.setSyslog hnone arg
  | heading =>
    rw [← Sum.inl.inj happly]
    exact ⟨s, rfl, rfl, rfl, hs⟩
  | jsacmd =>
    rw [← Sum.inl.inj happly]
    exact hs.addJsacmd arg
  | jsacustcmd =>
    rw [← Sum.inl.inj happly]
    exact hs.addJsacustcmd arg

/-- The strings that the statements of a file allocate. -/
def allocatedBy (file : List Statement) : ℕ := (file.map fun s ↦ s.1.strings).sum

theorem Mirrors.line {v v' : Loading} {line : Line} (hs : Mirrors rest allocated s v.config) (herr : s.err = v.err)
    (hlines : s.lines = v.lines) (hline : v.line memory line = .inl v') :
    ∃ s', s.line allocator memory line = some s' ∧ s'.err = v'.err ∧ s'.lines = v'.lines ∧
      Mirrors rest (allocated + line.statement.elim 0 fun s ↦ s.1.strings) s' v'.config := by
  unfold Loading.line at hline
  unfold HeapLoading.line Line.statement
  by_cases hcmd : line.cmd = []
  · rw [if_pos hcmd] at hline
    rw [if_pos hcmd, if_pos hcmd, ← Sum.inl.inj hline]
    exact ⟨_, rfl, herr, congrArg (· + 1) hlines, hs.read, hs.kept⟩
  · rw [if_neg hcmd] at hline
    rw [if_neg hcmd, if_neg hcmd]
    cases hdirective : directiveOf line.cmd with
    | none =>
      rw [hdirective] at hline
      rw [← Sum.inl.inj hline]
      exact ⟨_, rfl, rfl, congrArg (· + 1) hlines, hs.read, hs.kept⟩
    | some directive =>
      rw [hdirective] at hline
      obtain ⟨herr', hlines'⟩ := Loading.frame_apply hline
      have hcounted : Mirrors rest allocated { s with lines := s.lines + 1 }
          ({ v with lines := v.lines + 1 }.reach line.accesses).config := ⟨hs.read, hs.kept⟩
      obtain ⟨s', hs', hserr, hslines, hmirrors⟩ := hcounted.apply (congrArg (· + 1) hlines) hline
      exact ⟨s', hs', (hserr.trans herr).trans herr'.symm,
        (hslines.trans (congrArg (· + 1) hlines)).trans hlines'.symm, hmirrors⟩

theorem Mirrors.all {v v' : Loading} {lines : List Line} (hs : Mirrors rest allocated s v.config)
    (herr : s.err = v.err) (hlines : s.lines = v.lines) (hall : v.all memory lines = .inl v') :
    ∃ s', s.all allocator memory lines = some s' ∧ s'.err = v'.err ∧
      Mirrors rest (allocated + allocatedBy (statements lines)) s' v'.config := by
  induction lines generalizing s v allocated with
  | nil =>
    rw [← Sum.inl.inj hall]
    exact ⟨s, rfl, herr, hs⟩
  | cons line lines ih =>
    unfold Loading.all at hall
    cases hline : v.line memory line with
    | inr accesses =>
      rw [hline] at hall
      exact absurd hall Sum.inr_ne_inl
    | inl v₁ =>
      rw [hline] at hall
      obtain ⟨s₁, hs₁, herr₁, hlines₁, hmirrors₁⟩ := @Mirrors.line _ _ allocator _ _ _ _ _ hs herr hlines hline
      obtain ⟨s', hs', herr', hmirrors⟩ := ih hmirrors₁ herr₁ hlines₁ hall
      have hcount : allocatedBy (statements (line :: lines)) =
          (line.statement.elim 0 fun s ↦ s.1.strings) + allocatedBy (statements lines) := by
        cases hstatement : line.statement <;> simp [statements, allocatedBy, hstatement]
      rw [hcount, ← add_assoc]
      refine ⟨s', ?_, herr', hmirrors⟩
      rw [HeapLoading.all, hs₁]
      exact hs'

theorem mirrors_start {heap : Heap CString} (haccounts : (heap.keys : Multiset ℕ) = rest) :
    Mirrors rest 0 (HeapLoading.start allocator heap) .default := by
  have hstructs : (HeapLoading.start allocator heap).config.structs = {allocator.pick heap} := by
    simp [HeapLoading.start, HeapConf.structs, blockOf]
  have hstrings : (HeapLoading.start allocator heap).config.strings = 0 := by
    simp [HeapLoading.start, HeapConf.strings, blockOf, elementBlocks]
  refine ⟨rfl, 0, ?_, ?_⟩
  · rw [hstructs, hstrings]
    have hempty : Accounts heap 0 rest := haccounts.trans (zero_add rest).symm
    rw [add_zero, zero_add]
    exact hempty.alloc (allocator.fresh heap) []
  · rw [hstrings]
    rfl

theorem finish_eq_some {v : Loading} {config : FileConf} (hfinish : v.finish.config = some config) :
    v.err = false ∧ (Check.all v.config.mandatory).1 = true ∧ config = v.config.withDomain := by
  unfold Loading.finish at hfinish
  split_ifs at hfinish with herr
  · exact nomatch hfinish
  · cases hmandatory : (Check.all v.config.mandatory).1 with
    | false => simp [hmandatory, Created.config] at hfinish
    | true =>
      simp only [hmandatory, if_true, Created.config, Option.some.injEq] at hfinish
      exact ⟨Bool.eq_false_iff.2 herr, rfl, hfinish.symm⟩

/-- The strings that a file costs: one for each of its directives that has one, and the domain. -/
def stringsOf (file : List Statement) : ℕ :=
  allocatedBy file + if lastGiven textGiven file .domain = none then 1 else 0

theorem Mirrors.text_eq_none (hs : Mirrors rest allocated s config) (field : TextField) :
    s.config.texts field = none ↔ config.texts field = none := by
  rw [← hs.read]
  cases hfield : s.config.texts field with
  | none => simp [HeapConf.read, hfield]
  | some address =>
    have hread : (s.heap.lookup address).isSome :=
      AList.lookup_isSome.2 (hs.kept.live (HeapConf.mem_strings hfield))
    simp [HeapConf.read, hfield, Option.ne_none_iff_isSome.2 hread]

/-- A file that is accepted leaves its configuration in memory, beside the blocks that were there. -/
theorem exists_createHeapConf {roles : Roles} {file : List Char} (haccounts : (heap.keys : Multiset ℕ) = rest)
    (hcreate : (createConfig memory roles (some file)).config = some config) :
    ∃ heap' config', createHeapConf allocator memory heap (some file) = some (heap', some config') ∧
      config'.read heap' = config ∧
      Kept heap' config'.structs config'.strings rest (stringsOf (statements (configLines file))) := by
  unfold createConfig at hcreate
  cases hall : (Loading.start roles).all memory (configLines file) with
  | inr accesses =>
    simp only [hall] at hcreate
    exact nomatch hcreate
  | inl v =>
    simp only [hall, Sum.elim_inl] at hcreate
    obtain ⟨herr, hmandatory, rfl⟩ := finish_eq_some hcreate
    have hstart : Mirrors rest 0 (HeapLoading.start allocator heap) (Loading.start roles).config :=
      mirrors_start haccounts
    obtain ⟨s, hs, hserr, hmirrors⟩ := hstart.all rfl rfl hall
    rw [zero_add] at hmirrors
    have hfinish : createHeapConf allocator memory heap (some file) = s.finish allocator :=
      congrArg (Option.bind · _) hs
    have hdomain : s.config.texts .domain = none ↔
        lastGiven textGiven (statements (configLines file)) .domain = none := by
      rw [hmirrors.text_eq_none, texts_of_all hall ⟨by decide, by decide⟩]
    have hnot : ¬(s.err ∨ (Check.all (s.config.read s.heap).mandatory).1 = false) := by
      rw [hserr, herr, hmirrors.read, hmandatory]
      simp
    unfold HeapLoading.finish at hfinish
    rw [if_neg hnot] at hfinish
    unfold stringsOf FileConf.withDomain
    by_cases hnone : s.config.texts .domain = none
    · rw [if_pos hnone] at hfinish
      rw [if_pos ((hmirrors.text_eq_none _).1 hnone), if_pos (hdomain.1 hnone)]
      exact ⟨_, _, hfinish, (hmirrors.setText _ _).read, (hmirrors.setText _ _).kept⟩
    · rw [if_neg hnone] at hfinish
      rw [if_neg (mt (hmirrors.text_eq_none _).2 hnone), if_neg (mt hdomain.2 hnone)]
      exact ⟨_, _, hfinish, hmirrors.read, hmirrors.kept⟩

end Loading

section Freed

variable {heap : Heap CString} {owned lost : Multiset ℕ} {refs : List Ref} {config : HeapConf}

/-- Pointers without leftovers can be freed, if each of them has its own block. -/
theorem exists_foldlM_freez (haccounts : Accounts heap ((refs.map Ref.blocks).sum + owned) lost)
    (hrefs : ∀ address, .wild address ∉ refs) :
    ∃ heap', refs.foldlM freez heap = some heap' ∧ Accounts heap' owned lost ∧
      ∀ address ∉ (refs.map Ref.blocks).sum, heap'.lookup address = heap.lookup address := by
  induction refs generalizing heap with
  | nil => exact ⟨heap, rfl, by simpa using haccounts, fun _ _ ↦ rfl⟩
  | cons ref refs ih =>
    simp only [List.mem_cons, not_or] at hrefs
    rw [List.map_cons, List.sum_cons] at haccounts
    cases ref with
    | null =>
      obtain ⟨heap', hfreed, haccounts', hlookup⟩ := ih (by simpa [Ref.blocks] using haccounts) fun a ↦ (hrefs a).2
      exact ⟨heap', hfreed, haccounts', by simpa [Ref.blocks] using hlookup⟩
    | block address =>
      rw [Ref.blocks, add_assoc, Multiset.singleton_add] at haccounts
      obtain ⟨heap', hfreed, haccounts', hlookup⟩ := ih haccounts.free.2 fun a ↦ (hrefs a).2
      refine ⟨heap', ?_, haccounts', fun other hother ↦ ?_⟩
      · rw [List.foldlM_cons, freez, haccounts.free.1]
        exact hfreed
      · rw [List.map_cons, List.sum_cons, Multiset.mem_add, not_or] at hother
        rw [hlookup other hother.2, AList.lookup_erase_ne (Multiset.mem_singleton.not.1 hother.1)]
    | wild address => exact absurd rfl (hrefs address).1

theorem foldlM_freez_eq_none {address : ℕ} (hwild : .wild address ∈ refs) : refs.foldlM freez heap = none := by
  induction refs generalizing heap with
  | nil => exact nomatch hwild
  | cons ref refs ih =>
    rw [List.foldlM_cons]
    rcases List.mem_cons.1 hwild with rfl | hlater
    · rfl
    · cases hfreez : freez heap ref with
      | none => rfl
      | some heap => exact ih hlater

theorem sum_texts (g : TextField → Multiset ℕ) : ∑ field, g field = (TextField.all.map g).sum :=
  List.sum_toFinset g (by decide)

theorem sum_smsFields (g : SmsField → Multiset ℕ) : ∑ field, g field = (SmsField.all.map g).sum :=
  List.sum_toFinset g (by decide)

theorem sum_syslogFields (g : SyslogField → Multiset ℕ) : ∑ field, g field = (SyslogField.all.map g).sum :=
  List.sum_toFinset g (by decide)

theorem elementBlocks_eq_sum {ι : Type} [Fintype ι] {fields : List ι}
    (hfields : ∀ g : ι → Multiset ℕ, ∑ field, g field = (fields.map g).sum) (array : List (ι → Ref)) :
    elementBlocks array = ((array.flatMap fields.map).map Ref.blocks).sum := by
  induction array with
  | nil => rfl
  | cons element array ih =>
    rw [List.flatMap_cons, List.map_append, List.sum_append, ← ih, List.map_map, ← hfields]
    exact Multiset.cons_bind element array fun element ↦ ∑ field, (element field).blocks

theorem entryBlocks_eq_sum (entries : List HeapEntry) :
    ((entries.flatMap fun entry ↦ [Ref.block entry.val, .block entry.self]).map Ref.blocks).sum =
      (entries.map HeapEntry.val : Multiset ℕ) + (entries.map HeapEntry.self : Multiset ℕ) := by
  induction entries with
  | nil => rfl
  | cons entry entries ih =>
    simp only [List.flatMap_cons, List.map_append, List.sum_append, ih, List.map_cons, List.map_nil, List.sum_cons,
      List.sum_nil, add_zero, Ref.blocks, ← Multiset.cons_coe, ← Multiset.singleton_add]
    abel

theorem Ref.blocks_ofBlock (block : Option ℕ) : (Ref.ofBlock block).blocks = blockOf block := by
  cases block <;> rfl

/-- `deleteConfig` frees everything but `scp_user` and `scp_pass`. -/
theorem HeapConf.blocks_eq (config : HeapConf) : config.blocks =
    (config.freed.map Ref.blocks).sum + (blockOf (config.texts .scpUser) + blockOf (config.texts .scpPass)) := by
  have hblock (address : ℕ) : (Ref.block address).blocks = {address} := rfl
  simp only [freed, blocks, structs, strings, List.map_append, List.sum_append, entryBlocks_eq_sum,
    ← elementBlocks_eq_sum sum_smsFields, ← elementBlocks_eq_sum sum_syslogFields, sum_texts, TextField.all,
    List.map_cons, List.map_nil, List.sum_cons, List.sum_nil, Ref.blocks_ofBlock, hblock]
  abel

end Freed

section Reloads

/-- Whatever the globals are, the load returns the configuration. -/
def Load.Gives (load : Load) (config : FileConf) : Prop :=
  ∃ roles, (createConfig load.memory roles load.configFile).config = some config

def Load.strings (load : Load) : ℕ := stringsOf (statements (configLines (load.configFile.getD [])))

/-- No pointer of an element is what the memory held before. -/
def FileConf.Tidy (config : FileConf) : Prop :=
  (∀ sms ∈ config.smsArray, ∀ field address, sms field ≠ .wild address) ∧
    ∀ syslog ∈ config.syslogArray, ∀ field address, syslog field ≠ .wild address

/-- The strings that `deleteConfig` forgets. -/
def FileConf.scpStrings (config : FileConf) : ℕ :=
  (if (config.texts .scpUser).isSome then 1 else 0) + if (config.texts .scpPass).isSome then 1 else 0

/-- The memory of a daemon with this configuration: besides its blocks there are those that are lost. -/
structure HeapDaemon.Holds (s : HeapDaemon) (config : FileConf) (lost : Multiset ℕ) : Prop where
  read : s.config.read s.heap = config
  accounts : Accounts s.heap s.config.blocks lost

variable {allocator : Allocator CString} {s : HeapDaemon} {load : Load} {config config' : FileConf}
  {lost : Multiset ℕ}

theorem Ref.pointer_eq_wild {heap : Heap CString} {ref : Ref} {address : ℕ} :
    ref.pointer heap = .wild address ↔ ref = .wild address := by
  cases ref <;> simp [Ref.pointer]

theorem HeapDaemon.Holds.strings (hs : s.Holds config lost) : s.config.strings.card = config.strings := by
  rw [HeapConf.card_strings fun address haddress ↦ hs.accounts.mem (Multiset.mem_add.2 (.inr haddress)), hs.read]

theorem HeapDaemon.Holds.scpStrings (hs : s.Holds config lost) :
    (blockOf (s.config.texts .scpUser) + blockOf (s.config.texts .scpPass)).card = config.scpStrings := by
  have hcard (field : TextField) : (blockOf (s.config.texts field)).card =
      if (config.texts field).isSome then 1 else 0 := by
    rw [← hs.read]
    cases hfield : s.config.texts field with
    | none => simp [HeapConf.read, hfield, blockOf]
    | some address =>
      have hmem : address ∈ s.heap := hs.accounts.mem (Multiset.mem_add.2 (.inr (HeapConf.mem_strings hfield)))
      have hread : (s.heap.lookup address).isSome := AList.lookup_isSome.2 hmem
      simp [HeapConf.read, hfield, blockOf, hread]
  rw [Multiset.card_add, hcard, hcard]
  rfl

/-- Only the elements of the arrays can have leftovers. -/
theorem HeapConf.wild_mem_freed {config : HeapConf} {address : ℕ} : .wild address ∈ config.freed ↔
    (∃ sms ∈ config.smsArray, ∃ field, sms field = .wild address) ∨
      ∃ syslog ∈ config.syslogArray, ∃ field, syslog field = .wild address := by
  have hsms (sms : SmsField → Ref) : .wild address ∈ SmsField.all.map sms ↔ ∃ field, sms field = .wild address := by
    rw [List.mem_map]
    exact ⟨fun ⟨field, _, heq⟩ ↦ ⟨field, heq⟩, fun ⟨field, heq⟩ ↦ ⟨field, by cases field <;> decide, heq⟩⟩
  have hsyslog (syslog : SyslogField → Ref) :
      .wild address ∈ SyslogField.all.map syslog ↔ ∃ field, syslog field = .wild address := by
    rw [List.mem_map]
    exact ⟨fun ⟨field, _, heq⟩ ↦ ⟨field, heq⟩, fun ⟨field, heq⟩ ↦ ⟨field, by cases field; decide, heq⟩⟩
  have hblock (block : Option ℕ) : Ref.wild address ≠ .ofBlock block := by
    cases block <;> exact Ref.noConfusion
  simp [freed, hsms, hsyslog, hblock]

theorem HeapDaemon.Holds.tidy_iff (hs : s.Holds config lost) :
    config.Tidy ↔ ∀ address, .wild address ∉ s.config.freed := by
  rw [← hs.read]
  simp only [HeapConf.wild_mem_freed, not_or, not_exists, not_and, forall_and, FileConf.Tidy, HeapConf.read,
    List.forall_mem_map, ne_eq, Ref.pointer_eq_wild]
  constructor
  · rintro ⟨hsms, hsyslog⟩
    exact ⟨fun address sms hmem field ↦ hsms sms hmem field address,
      fun address syslog hmem field ↦ hsyslog syslog hmem field address⟩
  · rintro ⟨hsms, hsyslog⟩
    exact ⟨fun sms hmem field address ↦ hsms address sms hmem field,
      fun syslog hmem field address ↦ hsyslog address syslog hmem field⟩

theorem reload_eq_none (hs : s.Holds config lost) (hload : load.Gives config') (htidy : ¬config.Tidy) :
    s.reload allocator load = none := by
  obtain ⟨roles, hcreate⟩ := hload
  rw [hs.tidy_iff] at htidy
  push Not at htidy
  obtain ⟨address, hwild⟩ := htidy
  unfold HeapDaemon.reload deleteConfig
  split
  · rw [foldlM_freez_eq_none hwild]
    rfl
  · rfl

/-- A reload loses the strings that the new file overwrites, and the two that `deleteConfig` forgets. -/
theorem exists_reload (hs : s.Holds config lost) (hload : load.Gives config') (htidy : config.Tidy) :
    ∃ s' lost', s.reload allocator load = some s' ∧ s'.Holds config' lost' ∧
      lost'.card + config'.strings = lost.card + load.strings + config.scpStrings := by
  obtain ⟨roles, hcreate⟩ := hload
  cases hfile : load.configFile with
  | none =>
    rw [hfile] at hcreate
    exact nomatch hcreate
  | some file =>
    rw [hfile] at hcreate
    obtain ⟨heap, config₁, hcreated, hread, new, haccounts, hcount⟩ :=
      @exists_createHeapConf s.heap _ allocator _ _ _ _ hs.accounts hcreate
    rw [HeapConf.blocks_eq] at haccounts
    have hfreed : Accounts heap ((s.config.freed.map Ref.blocks).sum + (config₁.structs + config₁.strings))
        (new + (blockOf (s.config.texts .scpUser) + blockOf (s.config.texts .scpPass)) + lost) := by
      unfold Heap.Accounts at haccounts ⊢
      rw [haccounts]
      abel
    obtain ⟨heap', hdelete, haccounts', hlookup⟩ := exists_foldlM_freez hfreed (hs.tidy_iff.1 htidy)
    have hrun : s.reload allocator load = some ⟨heap', config₁⟩ := by
      unfold HeapDaemon.reload
      rw [hfile, hcreated]
      exact congrArg (Option.map _) hdelete
    have hread' : config₁.read heap' = config' := by
      rw [← hread]
      refine config₁.read_congr fun address haddress ↦ hlookup address ?_
      have hdisjoint := (Multiset.nodup_add.1 (Multiset.nodup_add.1 hfreed.nodup).1).2.2
      exact fun hmem ↦ Multiset.disjoint_left.1 hdisjoint hmem (Multiset.mem_add.2 (.inr haddress))
    have hholds : HeapDaemon.Holds ⟨heap', config₁⟩ config' _ := ⟨hread', haccounts'⟩
    have hstrings : config₁.strings.card = config'.strings := hholds.strings
    refine ⟨_, _, hrun, hholds, ?_⟩
    rw [← hstrings, Multiset.card_add, Multiset.card_add, hs.scpStrings, Load.strings, hfile, Option.getD_some]
    omega

/-- A configuration without the block of one of its settings. -/
theorem HeapConf.strings_withoutText {config : HeapConf} {field : TextField} {address : ℕ}
    (hfield : config.texts field = some address) :
    config.strings = {address} + strings { config with texts := Function.update config.texts field none } := by
  obtain ⟨others, hstrings⟩ := config.strings_texts
  obtain ⟨texts, hold, hnew⟩ := exists_sum_update blockOf config.texts field none
  have hbefore : config.strings = {address} + (texts + others) := by
    rw [hfield] at hold
    rw [← add_assoc]
    exact (hstrings config.texts).trans (congrArg (· + others) hold)
  have hafter : strings { config with texts := Function.update config.texts field none } = texts + others :=
    (hstrings _).trans (congrArg (· + others) (hnew.trans (zero_add texts)))
  rw [hbefore, hafter]

/-- The address is cut off in its block, or the block is forgotten. -/
theorem HeapDaemon.Holds.setAddress (hs : s.Holds config lost) {address : ℕ}
    (haddr : s.config.texts .haddr = some address) (haddr' : CString) (port : Int) :
    ∃ lost', HeapDaemon.Holds ⟨s.heap.insert address haddr', { s.config with
        numbers := Function.update s.config.numbers .port port
        texts := Function.update s.config.texts .haddr (if haddr' = [] then none else some address) }⟩
      { config.setNumber .port port with
        texts := Function.update config.texts .haddr (if haddr' = [] then none else some haddr') } lost' ∧
      lost'.card + FileConf.strings { config.setNumber .port port with
        texts := Function.update config.texts .haddr (if haddr' = [] then none else some haddr') } =
          lost.card + config.strings := by
  have hwithout := HeapConf.strings_withoutText haddr
  have haccounts : Accounts s.heap (s.config.structs + s.config.strings) lost := hs.accounts
  rw [hwithout, add_left_comm] at haccounts
  have hfresh :
      address ∉ HeapConf.strings { s.config with texts := Function.update s.config.texts .haddr none } := by
    have hnodup := (Multiset.nodup_add.1 haccounts.nodup).1
    rw [Multiset.singleton_add, Multiset.nodup_cons, Multiset.mem_add, not_or] at hnodup
    exact hnodup.1.2
  let without : HeapConf := { s.config with
    numbers := Function.update s.config.numbers .port port
    texts := Function.update s.config.texts .haddr none }
  have hwithoutRead : without.read (s.heap.insert address haddr') =
      { config.setNumber .port port with texts := Function.update config.texts .haddr none } := by
    have hsame : without.read (s.heap.insert address haddr') = without.read s.heap :=
      without.read_congr fun other hother ↦ AList.lookup_insert_ne fun heq ↦ hfresh (heq ▸ hother)
    rw [hsame, ← hs.read]
    unfold HeapConf.read FileConf.setNumber
    congr 1
    funext field
    by_cases hfield : field = .haddr
    · subst hfield
      simp [without]
    · simp [without, hfield]
  by_cases hempty : haddr' = []
  · simp only [if_pos hempty]
    have hholds : HeapDaemon.Holds ⟨s.heap.insert address haddr', without⟩ _ ({address} + lost) :=
      ⟨hwithoutRead, (haccounts.write (Multiset.mem_add.2 (.inl (Multiset.mem_singleton_self _))) haddr').lose⟩
    refine ⟨_, hholds, ?_⟩
    rw [← hholds.strings, ← hs.strings, hwithout, Multiset.card_add, Multiset.card_add, Multiset.card_singleton]
    rw [add_comm 1 lost.card, add_assoc]
    rfl
  · simp only [if_neg hempty]
    have hback : Function.update without.texts .haddr (some address) = s.config.texts := by
      rw [← haddr]
      exact (Function.update_idem ..).trans (Function.update_eq_self ..)
    have hlookup : (s.heap.insert address haddr').lookup address = some haddr' := AList.lookup_insert s.heap
    have hread := @HeapConf.read_setText _ _ without _ .haddr hlookup
    rw [hback, hwithoutRead, FileConf.setText, Function.update_idem] at hread
    have hmem : address ∈ s.config.structs + s.config.strings :=
      Multiset.mem_add.2 (.inr (HeapConf.mem_strings haddr))
    have hholds : HeapDaemon.Holds ⟨s.heap.insert address haddr', { without with texts := s.config.texts }⟩ _ lost :=
      ⟨hread, hs.accounts.write hmem haddr'⟩
    have hsame : Function.update s.config.texts .haddr (some address) = s.config.texts := by
      rw [← haddr, Function.update_eq_self]
    rw [hsame]
    refine ⟨lost, hholds, ?_⟩
    rw [← hs.strings]
    exact congrArg (lost.card + ·) hholds.strings.symm

/-- `main` cuts the address off in its block, or forgets the block. -/
theorem exists_bindAddress (hs : s.Holds config lost) (hbind : config.bindAddress = some config') :
    ∃ s' lost', s.bindAddress = some s' ∧ s'.Holds config' lost' ∧
      lost'.card + config'.strings = lost.card + config.strings := by
  cases haddr : s.config.texts .haddr with
  | none =>
    have hnone : config.texts .haddr = none := by
      rw [← hs.read]
      simp [HeapConf.read, haddr]
    unfold FileConf.bindAddress at hbind
    simp only [hnone, Option.some.injEq] at hbind
    subst hbind
    refine ⟨s, lost, ?_, hs, rfl⟩
    unfold HeapDaemon.bindAddress
    simp only [haddr]
  | some address =>
    have hmem : address ∈ s.heap := hs.accounts.mem (Multiset.mem_add.2 (.inr (HeapConf.mem_strings haddr)))
    obtain ⟨spec, hspec⟩ := Option.isSome_iff_exists.1 (AList.lookup_isSome.2 hmem)
    have hsome : config.texts .haddr = some spec := by
      rw [← hs.read]
      simp [HeapConf.read, haddr, hspec]
    unfold FileConf.bindAddress at hbind
    simp only [hsome] at hbind
    unfold HeapDaemon.bindAddress
    simp only [haddr, hspec, Option.getD_some]
    have hnumbers : s.config.numbers = config.numbers := by
      rw [← hs.read]
      rfl
    rw [hnumbers]
    generalize (if (spec.dropWhile (· ≠ ':')).tail = [] then config.numbers .port else
      atoi (spec.dropWhile (· ≠ ':')).tail) = port at hbind ⊢
    generalize spec.takeWhile (· ≠ ':') = haddr' at hbind ⊢
    by_cases hport : port ≤ 0
    · rw [if_pos hport] at hbind
      exact absurd hbind.symm (Option.some_ne_none config')
    · rw [if_neg hport] at hbind ⊢
      obtain rfl := Option.some.inj hbind
      obtain ⟨lost', hholds, hcount⟩ := hs.setAddress haddr haddr' port
      rw [hnumbers] at hholds
      exact ⟨_, lost', rfl, hholds, hcount⟩

theorem exists_start (hload : load.Gives config) (hbind : config.bindAddress = some config') :
    ∃ s lost, HeapDaemon.start allocator load = some s ∧ s.Holds config' lost ∧
      lost.card + config'.strings = load.strings := by
  obtain ⟨roles, hcreate⟩ := hload
  cases hfile : load.configFile with
  | none =>
    rw [hfile] at hcreate
    exact nomatch hcreate
  | some file =>
    rw [hfile] at hcreate
    obtain ⟨heap, config₁, hcreated, hread, lost, haccounts, hcount⟩ :=
      @exists_createHeapConf ∅ 0 allocator _ _ _ _ rfl hcreate
    have hholds : HeapDaemon.Holds ⟨heap, config₁⟩ config lost :=
      ⟨hread, haccounts.trans (congrArg _ (add_zero lost))⟩
    obtain ⟨s, lost', hs, hholds', hcount'⟩ := exists_bindAddress hholds hbind
    have hstrings : config₁.strings.card = config.strings := hholds.strings
    refine ⟨s, lost', ?_, hholds', ?_⟩
    · unfold HeapDaemon.start
      rw [hfile, hcreated]
      exact hs
    · rw [hcount', ← hstrings, hcount, Load.strings, hfile]
      rfl

variable {loads : List Load} {configs : List FileConf}

/-- What `lost` becomes over several reloads. -/
theorem reloads_of_holds (hs : s.Holds config lost) (hloads : List.Forall₂ Load.Gives loads configs) :
    ((loads.foldlM (HeapDaemon.reload allocator) s).isSome ↔ ∀ c ∈ (config :: configs).dropLast, c.Tidy) ∧
      ∀ s' ∈ loads.foldlM (HeapDaemon.reload allocator) s, ∃ lost',
        s'.Holds ((config :: configs).getLast (List.cons_ne_nil config configs)) lost' ∧
          lost'.card + (configs.map FileConf.strings).sum = lost.card + (loads.map Load.strings).sum +
            ((config :: configs).dropLast.map FileConf.scpStrings).sum := by
  induction hloads generalizing s config lost with
  | nil =>
    refine ⟨by simp, fun s' hs' ↦ ⟨lost, ?_, rfl⟩⟩
    obtain rfl := Option.some.inj hs'
    exact hs
  | @cons load config' loads configs hload hloads ih =>
    rw [List.foldlM_cons]
    by_cases htidy : config.Tidy
    · obtain ⟨s₁, lost₁, hreload, hs₁, hcount⟩ := @exists_reload allocator _ _ _ _ _ hs hload htidy
      obtain ⟨hrun, hend⟩ := ih hs₁
      rw [hreload]
      refine ⟨?_, fun s' hs' ↦ ?_⟩
      · rw [List.dropLast_cons_cons, List.forall_mem_cons]
        exact hrun.trans (and_iff_right htidy).symm
      · obtain ⟨lost', hs', hcount'⟩ := hend s' hs'
        refine ⟨lost', hs', ?_⟩
        rw [List.dropLast_cons_cons, List.map_cons, List.map_cons, List.map_cons, List.sum_cons, List.sum_cons,
          List.sum_cons]
        omega
    · rw [reload_eq_none hs hload htidy]
      refine ⟨iff_of_false (by simp) fun hall ↦ htidy ?_, fun _ hs' ↦ nomatch hs'⟩
      exact hall config (by simp)

theorem elements_ne_wild {ι : Type} {given : ℕ → Statement → ι → Option CString} {leftover : ℕ → ι → Leftover}
    (hclear : ∀ i field, leftover i field = none) {sections : List (List Statement)} {element : ι → Pointer}
    (helement : element ∈ elements given leftover sections) (field : ι) (address : ℕ) :
    element field ≠ .wild address := by
  obtain ⟨i, hi, rfl⟩ := List.mem_mapIdx.1 helement
  unfold pointerOf
  rw [hclear]
  cases lastGiven (given i) sections[i] field <;> exact Pointer.noConfusion

/-- Memory that is clear leaves nothing behind. -/
theorem tidy_of_clear (hload : load.Gives config) (hsms : ∀ i field, load.memory.sms i field = none)
    (hsyslog : ∀ i field, load.memory.syslog i field = none) : config.Tidy := by
  obtain ⟨roles, hcreate⟩ := hload
  cases hfile : load.configFile with
  | none =>
    rw [hfile] at hcreate
    exact nomatch hcreate
  | some file =>
    rw [hfile] at hcreate
    obtain ⟨v, hall, rfl, -⟩ := createConfig_eq_some hcreate
    obtain ⟨hsmsArray, hsyslogArray⟩ := Loading.arrays_all hall
    unfold FileConf.Tidy
    rw [(withDomain_arrays v.config).1, (withDomain_arrays v.config).2, hsmsArray, hsyslogArray]
    exact ⟨fun _ hmem ↦ elements_ne_wild hsms hmem, fun _ hmem ↦ elements_ne_wild hsyslog hmem⟩

/-- Taking the address apart leaves the elements of the arrays alone. -/
theorem tidy_bindAddress (hbind : config.bindAddress = some config') (htidy : config.Tidy) : config'.Tidy := by
  cases hspec : config.texts .haddr with
  | none =>
    rw [bindAddress_of_none hspec hbind]
    exact htidy
  | some spec =>
    unfold FileConf.bindAddress at hbind
    rw [hspec] at hbind
    obtain ⟨-, hconfig⟩ := (Option.ite_none_left_eq_some).1 hbind
    obtain rfl := Option.some.inj hconfig
    exact htidy

/-- The plain file with a port but no address, a domain that is given twice and a name for `scp`. -/
def wastefulLoad : Load :=
  ⟨filledMemory none, some (unlines (plainFileWith
    ["listen-address :8080", "domain a", "domain b", "scp-username c"]))⟩

end Reloads

end CoreEngine.Smsd
