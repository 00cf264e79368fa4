import CoreEngine.Memory.Blocks
import CoreEngine.Smsd.ConfigRoles
import CoreEngine.Smsd.Reload
import Mathlib.Data.Fintype.Basic
import Mathlib.Data.Multiset.Bind
import Mathlib.Tactic.Abel

/-!
# The configuration in memory

`createConfig` and `deleteConfig` again, with the blocks that they allocate and free. A directive that comes
twice overwrites the only pointer to a string, and `deleteConfig` leaves two strings behind, so that reloads
can fill the memory. A pointer of an element that no directive has written is freed with the others.
-/

namespace CoreEngine.Smsd

open CoreEngine.Memory

section Fields

/-- The strings in the order in which they are freed, and the two that are not. -/
def TextField.all : List TextField :=
  [.domain, .logfile, .haddr, .ntpserver, .ntpbackupserver, .dnsDefault, .ubiVsocName, .ubiCentralizedNodeName,
    .nodeName, .tftpBase, .fmcRepository, .fmcEntities2files, .smtpServerAddress, .notifMailAddress, .dbConfFile,
    .routerConfFile, .saveAllConfTime, .saveAllConfFreq, .scpUser, .scpPass]

def SmsField.all : List SmsField := [.smsAddressIp, .smsAddressIpv6, .smsNetworkIp, .smsMaskIp, .smsInvertedMaskIp]

def SyslogField.all : List SyslogField := [.syslogAddIp]

instance : Fintype TextField := Fintype.ofList TextField.all fun field ↦ by cases field <;> decide

instance : Fintype SmsField := Fintype.ofList SmsField.all fun field ↦ by cases field <;> decide

instance : Fintype SyslogField := Fintype.ofList SyslogField.all fun field ↦ by cases field; decide

end Fields

section Pointers

/-- A pointer of an element: NULL, a block, or what the memory of the element held. -/
inductive Ref
  | null
  | block (address : ℕ)
  | wild (address : ℕ)
  deriving DecidableEq, Repr

def Leftover.ref (leftover : Leftover) : Ref := leftover.elim .null .wild

/-- An entry of a list, and its string. -/
structure HeapEntry where
  self : ℕ
  val : ℕ
  deriving DecidableEq, Repr

/-- `smsConf_t`, with addresses in place of strings. -/
structure HeapConf where
  self : ℕ
  texts : TextField → Option ℕ
  numbers : NumberField → Int
  smsBlock : Option ℕ
  smsArray : List (SmsField → Ref)
  syslogBlock : Option ℕ
  syslogArray : List (SyslogField → Ref)
  jsacmdList : List HeapEntry
  jsacustcmdList : List HeapEntry

def Ref.pointer (heap : Heap CString) : Ref → Pointer
  | .null => .null
  | .block address => .text ((heap.lookup address).getD [])
  | .wild address => .wild address

/-- The configuration that a reader of the memory finds. -/
def HeapConf.read (heap : Heap CString) (config : HeapConf) : FileConf where
  texts field := (config.texts field).bind (heap.lookup ·)
  numbers := config.numbers
  smsArray := config.smsArray.map fun sms field ↦ (sms field).pointer heap
  syslogArray := config.syslogArray.map fun syslog field ↦ (syslog field).pointer heap
  jsacmdList := config.jsacmdList.map fun entry ↦ (heap.lookup entry.val).getD []
  jsacustcmdList := config.jsacustcmdList.map fun entry ↦ (heap.lookup entry.val).getD []

end Pointers

section Create

/-- `createConfig` in the middle of the file. -/
structure HeapLoading where
  heap : Heap CString
  config : HeapConf
  err : Bool
  lines : ℕ

/-- `realloc`, which may move the block. -/
def realloc (allocator : Allocator CString) (heap : Heap CString) (block : Option ℕ) : Option (ℕ × Heap CString) :=
  (block.elim (some heap) heap.free).map fun heap ↦ (allocator.pick heap, heap.insert (allocator.pick heap) [])

variable (allocator : Allocator CString) (memory : Memory)

namespace HeapLoading

/-- `config->field = strdup(text)`. -/
def setText (s : HeapLoading) (field : TextField) (text : CString) : HeapLoading :=
  let address := allocator.pick s.heap
  { s with
    heap := s.heap.insert address text
    config := { s.config with texts := Function.update s.config.texts field (some address) } }

/-- `config->smsArray[config->smsNumber - 1].field = strdup(text)`. -/
def setSms (s : HeapLoading) (field : SmsField) (text : CString) : Option HeapLoading :=
  let address := allocator.pick s.heap
  if s.config.smsArray = [] then none
  else some { s with
    heap := s.heap.insert address text
    config := { s.config with
      smsArray := s.config.smsArray.modifyLast fun sms ↦ Function.update sms field (.block address) } }

def setSyslog (s : HeapLoading) (text : CString) : Option HeapLoading :=
  let address := allocator.pick s.heap
  if s.config.syslogArray = [] then none
  else some { s with
    heap := s.heap.insert address text
    config := { s.config with
      syslogArray := s.config.syslogArray.modifyLast fun syslog ↦
        Function.update syslog .syslogAddIp (.block address) } }

/-- A new entry of a list, with its string. -/
def newEntry (s : HeapLoading) (text : CString) : HeapEntry × Heap CString :=
  let self := allocator.pick s.heap
  let heap := s.heap.insert self []
  let val := allocator.pick heap
  (⟨self, val⟩, heap.insert val text)

def apply (s : HeapLoading) (directive : Directive) (arg : CString) : Option HeapLoading :=
  match directive with
  | .smsSection _ =>
      (realloc allocator s.heap s.config.smsBlock).map fun (address, heap) ↦
        { s with
          heap := heap
          config := { s.config with
            smsBlock := some address
            smsArray := s.config.smsArray ++ [fun field ↦ (memory.sms s.config.smsArray.length field).ref] } }
  | .syslogSection _ =>
      (realloc allocator s.heap s.config.syslogBlock).map fun (address, heap) ↦
        { s with
          heap := heap
          config := { s.config with
            syslogBlock := some address
            syslogArray :=
              s.config.syslogArray ++ [fun field ↦ (memory.syslog s.config.syslogArray.length field).ref] } }
  | .text field => some (s.setText allocator field arg)
  | .path field =>
      some (s.setText allocator field (if arg.getLastD (memory.before s.lines) = '/' then arg.dropLast else arg))
  | .number field =>
      some { s with config := { s.config with numbers := Function.update s.config.numbers field (atoi arg) } }
  | .sms field => s.setSms allocator field arg
  | .mask => (s.setSms allocator .smsMaskIp arg).bind fun masked ↦
      masked.setSms allocator .smsInvertedMaskIp (memory.invertedMask (s.config.smsArray.length - 1) arg)
  | .syslogServer => s.setSyslog allocator arg
  | .heading => some s
  | .jsacmd =>
      let new := s.newEntry allocator arg
      some { s with heap := new.2, config := { s.config with jsacmdList := s.config.jsacmdList ++ [new.1] } }
  | .jsacustcmd =>
      let new := s.newEntry allocator arg
      some { s with heap := new.2, config := { s.config with jsacustcmdList := s.config.jsacustcmdList ++ [new.1] } }

def line (s : HeapLoading) (line : Line) : Option HeapLoading :=
  let s := { s with lines := s.lines + 1 }
  if line.cmd = [] then some s
  else match directiveOf line.cmd with
    | some directive => s.apply allocator memory directive line.arg
    | none => some { s with err := true }

def all (s : HeapLoading) : List Line → Option HeapLoading
  | [] => some s
  | line :: lines => (s.line allocator memory line).bind fun s ↦ s.all lines

/-- `calloc`, and the default values. -/
def start (heap : Heap CString) : HeapLoading where
  heap := heap.insert (allocator.pick heap) []
  config := ⟨allocator.pick heap, fun _ ↦ none, FileConf.default.numbers, none, [], none, [], [], []⟩
  err := false
  lines := 0

/-- The strings of a configuration that is refused are not freed; the daemon exits then. -/
def finish (s : HeapLoading) : Option (Heap CString × Option HeapConf) :=
  if s.err ∨ (Check.all (s.config.read s.heap).mandatory).1 = false then
    (s.heap.free s.config.self).map fun heap ↦ (heap, none)
  else if s.config.texts .domain = none then
    let s := s.setText allocator .domain "ubiqube.net".toList
    some (s.heap, some s.config)
  else some (s.heap, some s.config)

end HeapLoading

/-- `createConfig`, unless the daemon dies in it. -/
def createHeapConf (heap : Heap CString) (configFile : Option (List Char)) :
    Option (Heap CString × Option HeapConf) :=
  match configFile with
  | none => some (heap, none)
  | some file =>
      ((HeapLoading.start allocator heap).all allocator memory (configLines file)).bind fun s ↦
        s.finish allocator

end Create

section Delete

/-- `freez`. To free what is no block is an error. -/
def freez (heap : Heap CString) : Ref → Option (Heap CString)
  | .null => some heap
  | .block address => heap.free address
  | .wild _ => none

def Ref.ofBlock (block : Option ℕ) : Ref := block.elim .null .block

/-- The pointers that `deleteConfig` frees, in its order. `scp_user` and `scp_pass` are not among them. -/
def HeapConf.freed (config : HeapConf) : List Ref :=
  ([.domain, .logfile, .haddr] : List TextField).map (fun field ↦ .ofBlock (config.texts field)) ++
  config.smsArray.flatMap SmsField.all.map ++
  config.syslogArray.flatMap SyslogField.all.map ++
  [.ofBlock config.smsBlock, .ofBlock config.syslogBlock] ++
  ([.ntpserver, .ntpbackupserver, .dnsDefault, .ubiVsocName, .ubiCentralizedNodeName, .nodeName, .tftpBase,
    .fmcRepository, .fmcEntities2files, .smtpServerAddress, .notifMailAddress, .dbConfFile, .routerConfFile,
    .saveAllConfTime, .saveAllConfFreq] : List TextField).map (fun field ↦ .ofBlock (config.texts field)) ++
  config.jsacmdList.flatMap (fun entry ↦ [.block entry.val, .block entry.self]) ++
  config.jsacustcmdList.flatMap (fun entry ↦ [.block entry.val, .block entry.self]) ++
  [.block config.self]

/-- `deleteConfig`, which is only called on `currentConfig`. -/
def deleteConfig (heap : Heap CString) (config : HeapConf) : Option (Heap CString) := config.freed.foldlM freez heap

end Delete

section Run

/-- A running daemon: the memory, and `currentConfig`. -/
structure HeapDaemon where
  heap : Heap CString
  config : HeapConf

namespace HeapDaemon

/-- `main` takes the address apart in its block. An address that becomes empty is forgotten. -/
def bindAddress (s : HeapDaemon) : Option HeapDaemon :=
  match s.config.texts .haddr with
  | none => some s
  | some address =>
      let spec := (s.heap.lookup address).getD []
      let p := (spec.dropWhile (· ≠ ':')).tail
      let haddr := spec.takeWhile (· ≠ ':')
      let port := if p = [] then s.config.numbers .port else atoi p
      if port ≤ 0 then none
      else some ⟨s.heap.insert address haddr,
        { s.config with
          numbers := Function.update s.config.numbers .port port
          texts := Function.update s.config.texts .haddr (if haddr = [] then none else some address) }⟩

variable (allocator : Allocator CString)

def start (load : Load) : Option HeapDaemon :=
  match createHeapConf allocator load.memory ∅ load.configFile with
  | some (heap, some config) => bindAddress ⟨heap, config⟩
  | _ => none

/-- `reloadConfig`: the new configuration is there before the old one is deleted. -/
def reload (s : HeapDaemon) (load : Load) : Option HeapDaemon :=
  match createHeapConf allocator load.memory s.heap load.configFile with
  | some (heap, some config) => (deleteConfig heap s.config).map fun heap ↦ ⟨heap, config⟩
  | _ => none

def run (first : Load) (loads : List Load) : Option HeapDaemon :=
  (start allocator first).bind fun s ↦ loads.foldlM (reload allocator) s

end HeapDaemon

end Run

section Blocks

def blockOf (block : Option ℕ) : Multiset ℕ := block.elim 0 ({·})

def Ref.blocks : Ref → Multiset ℕ
  | .block address => {address}
  | _ => 0

/-- The strings of the elements of an array. -/
def elementBlocks {ι : Type} [Fintype ι] (array : List (ι → Ref)) : Multiset ℕ :=
  (array : Multiset (ι → Ref)).bind fun element ↦ ∑ field, (element field).blocks

namespace HeapConf

/-- The blocks of a configuration other than strings. -/
def structs (config : HeapConf) : Multiset ℕ :=
  {config.self} + blockOf config.smsBlock + blockOf config.syslogBlock +
    (config.jsacmdList.map HeapEntry.self : Multiset ℕ) + (config.jsacustcmdList.map HeapEntry.self : Multiset ℕ)

def strings (config : HeapConf) : Multiset ℕ :=
  ∑ field, blockOf (config.texts field) + elementBlocks config.smsArray + elementBlocks config.syslogArray +
    (config.jsacmdList.map HeapEntry.val : Multiset ℕ) + (config.jsacustcmdList.map HeapEntry.val : Multiset ℕ)

def blocks (config : HeapConf) : Multiset ℕ := config.structs + config.strings

theorem strings_texts (config : HeapConf) : ∃ others, ∀ texts, strings { config with texts := texts } =
    ∑ field, blockOf (texts field) + others :=
  ⟨_, fun _ ↦ by simp only [strings, add_assoc]; rfl⟩

theorem strings_smsArray (config : HeapConf) : ∃ others, ∀ smsArray, strings { config with smsArray := smsArray } =
    elementBlocks smsArray + others := by
  refine ⟨strings { config with smsArray := [] }, fun smsArray ↦ ?_⟩
  simp only [strings, elementBlocks, Multiset.coe_nil, Multiset.zero_bind]
  abel

theorem strings_syslogArray (config : HeapConf) : ∃ others, ∀ syslogArray,
    strings { config with syslogArray := syslogArray } = elementBlocks syslogArray + others := by
  refine ⟨strings { config with syslogArray := [] }, fun syslogArray ↦ ?_⟩
  simp only [strings, elementBlocks, Multiset.coe_nil, Multiset.zero_bind]
  abel

theorem structs_smsBlock (config : HeapConf) : ∃ others, ∀ smsBlock, structs { config with smsBlock := smsBlock } =
    blockOf smsBlock + others := by
  refine ⟨structs { config with smsBlock := none }, fun smsBlock ↦ ?_⟩
  simp only [structs, blockOf, Option.elim_none]
  abel

theorem structs_syslogBlock (config : HeapConf) : ∃ others, ∀ syslogBlock,
    structs { config with syslogBlock := syslogBlock } = blockOf syslogBlock + others := by
  refine ⟨structs { config with syslogBlock := none }, fun syslogBlock ↦ ?_⟩
  simp only [structs, blockOf, Option.elim_none]
  abel

end HeapConf

variable {heap heap' : Heap CString} {config : HeapConf}

theorem mem_elementBlocks {ι : Type} [Fintype ι] {array : List (ι → Ref)} {element : ι → Ref}
    (helement : element ∈ array) {field : ι} {address : ℕ} (hfield : element field = .block address) :
    address ∈ elementBlocks array := by
  refine Multiset.mem_bind.2 ⟨element, Multiset.mem_coe.2 helement, ?_⟩
  refine Multiset.mem_sum.2 ⟨field, Finset.mem_univ _, ?_⟩
  rw [hfield]
  exact Multiset.mem_singleton_self address

theorem pointers_congr {ι : Type} [Fintype ι] {array : List (ι → Ref)}
    (hread : ∀ address ∈ elementBlocks array, heap'.lookup address = heap.lookup address) :
    (array.map fun element field ↦ (element field).pointer heap') =
      array.map fun element field ↦ (element field).pointer heap := by
  refine List.map_congr_left fun element helement ↦ ?_
  funext field
  cases hfield : element field with
  | null => rfl
  | block address =>
    simp only [Ref.pointer, hread address (mem_elementBlocks helement hfield)]
  | wild address => rfl

theorem values_congr {entries : List HeapEntry}
    (hread : ∀ address ∈ entries.map HeapEntry.val, heap'.lookup address = heap.lookup address) :
    (entries.map fun entry ↦ (heap'.lookup entry.val).getD []) =
      entries.map fun entry ↦ (heap.lookup entry.val).getD [] := by
  refine List.map_congr_left fun entry hentry ↦ ?_
  rw [hread entry.val (List.mem_map_of_mem hentry)]

theorem HeapConf.mem_strings {field : TextField} {address : ℕ} (hfield : config.texts field = some address) :
    address ∈ config.strings := by
  have htexts : address ∈ ∑ field, blockOf (config.texts field) := by
    refine Multiset.mem_sum.2 ⟨field, Finset.mem_univ _, ?_⟩
    rw [hfield]
    exact Multiset.mem_singleton_self address
  simp [strings, htexts]

/-- A configuration depends on the contents of its strings only. -/
theorem HeapConf.read_congr (hread : ∀ address ∈ config.strings, heap'.lookup address = heap.lookup address) :
    config.read heap' = config.read heap := by
  have hfields (field : TextField) : (config.texts field).bind (heap'.lookup ·) =
      (config.texts field).bind (heap.lookup ·) := by
    cases hfield : config.texts field with
    | none => rfl
    | some address => exact hread address (mem_strings hfield)
  simp only [strings, Multiset.mem_add, or_imp, forall_and] at hread
  obtain ⟨⟨⟨⟨-, hsms⟩, hsyslog⟩, hjsacmd⟩, hjsacustcmd⟩ := hread
  unfold HeapConf.read
  rw [pointers_congr hsms, pointers_congr hsyslog, values_congr hjsacmd, values_congr hjsacustcmd, funext hfields]

end Blocks

section Count

/-- How many strings a directive allocates. -/
def Directive.strings : Directive → ℕ
  | .text _ | .path _ | .sms _ | .syslogServer | .jsacmd | .jsacustcmd => 1
  | .mask => 2
  | _ => 0

def Pointer.strings : Pointer → ℕ
  | .text _ => 1
  | _ => 0

/-- How many strings the elements of an array point to. -/
def elementStrings {ι : Type} [Fintype ι] (array : List (ι → Pointer)) : ℕ :=
  (array.map fun element ↦ ∑ field, (element field).strings).sum

/-- How many strings a configuration points to. -/
def FileConf.strings (config : FileConf) : ℕ :=
  ∑ field, (if (config.texts field).isSome then 1 else 0) + elementStrings config.smsArray +
    elementStrings config.syslogArray + config.jsacmdList.length + config.jsacustcmdList.length

variable {heap : Heap CString} {config : HeapConf}

theorem Ref.card_blocks (ref : Ref) : ref.blocks.card = (ref.pointer heap).strings := by
  cases ref <;> rfl

theorem card_elementBlocks {ι : Type} [Fintype ι] (array : List (ι → Ref)) :
    (elementBlocks array).card = elementStrings (array.map fun element field ↦ (element field).pointer heap) := by
  unfold elementBlocks elementStrings
  rw [Multiset.card_bind, List.map_map, Multiset.map_coe, Multiset.sum_coe]
  congr 1
  refine List.map_congr_left fun element _ ↦ ?_
  rw [Function.comp_apply, Multiset.card_sum]
  exact Finset.sum_congr rfl fun field _ ↦ (element field).card_blocks

/-- The strings of a configuration are there to be read. -/
theorem HeapConf.card_strings (hlive : ∀ address ∈ config.strings, address ∈ heap) :
    config.strings.card = (config.read heap).strings := by
  have htexts : ∑ field, (blockOf (config.texts field)).card =
      ∑ field, (if ((config.read heap).texts field).isSome then 1 else 0) := by
    refine Finset.sum_congr rfl fun field _ ↦ ?_
    cases hfield : config.texts field with
    | none => simp [HeapConf.read, hfield, blockOf]
    | some address =>
      have hread : (heap.lookup address).isSome := AList.lookup_isSome.2 (hlive address (mem_strings hfield))
      simp [HeapConf.read, hfield, blockOf, hread]
  unfold strings FileConf.strings
  rw [← htexts, ← Multiset.card_sum]
  simp only [Multiset.card_add, @card_elementBlocks heap, Multiset.coe_card, List.length_map, HeapConf.read]

end Count

end CoreEngine.Smsd
