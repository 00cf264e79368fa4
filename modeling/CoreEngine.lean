import CoreEngine.Interaction.Program
import CoreEngine.Interaction.Monitor
import CoreEngine.Interaction.Footprint
import CoreEngine.Interaction.Procedure
import CoreEngine.Interaction.Possibility
import CoreEngine.Interaction.Interleaving
import CoreEngine.Smsd.CString
import CoreEngine.Smsd.Words
import CoreEngine.Smsd.World
import CoreEngine.Smsd.Bd
import CoreEngine.Smsd.Lock
import CoreEngine.Smsd.Status
import CoreEngine.Smsd.UserMessage
import CoreEngine.Smsd.Php
import CoreEngine.Smsd.GenericRouter
import CoreEngine.Smsd.Update
import CoreEngine.Smsd.IpUpdate
import CoreEngine.Smsd.Verb
import CoreEngine.Smsd.Dispatch
import CoreEngine.Smsd.Simulator
import CoreEngine.Smsd.Footprint
import CoreEngine.Smsd.Passage
import CoreEngine.Smsd.Discipline
import CoreEngine.Smsd.Indifference
import CoreEngine.Smsd.LockRow
import CoreEngine.Smsd.LockReply
import CoreEngine.Smsd.LockMachine
import CoreEngine.Smsd.LockRace
import CoreEngine.Smsd.UpdateLock
import CoreEngine.Smsd.Identifier
import CoreEngine.Smsd.Numerals
import CoreEngine.Smsd.Decoder
import CoreEngine.Smsd.Ledger
import CoreEngine.Interaction.Ownership
import CoreEngine.Interaction.Secrecy
import CoreEngine.Smsd.Pool
import CoreEngine.Smsd.Socket
import CoreEngine.Smsd.Replies
import CoreEngine.Smsd.LockLeak
import CoreEngine.Smsd.Address
import CoreEngine.Smsd.Notifier
import CoreEngine.Smsd.Announcement
import CoreEngine.Smsd.AddressRace
import CoreEngine.Smsd.OneByOne
import CoreEngine.Smsd.Refusal
import CoreEngine.Smsd.Body
import CoreEngine.Smsd.Buffers
import CoreEngine.Memory.Cells
import CoreEngine.Json.Grammar
import CoreEngine.Json.Parser
import CoreEngine.Json.Soundness
import CoreEngine.Smsd.Tokens
import CoreEngine.Smsd.HiddenInput
import CoreEngine.Smsd.StatusTable
import CoreEngine.Smsd.UserTree
import CoreEngine.Smsd.ReplyDocument
import CoreEngine.Smsd.ConfigFile
import CoreEngine.Smsd.ConfigAccess
import CoreEngine.Smsd.ConfigSections
import CoreEngine.Smsd.ConfigRoles
import CoreEngine.Smsd.Reload
import CoreEngine.Interaction.Transition
import CoreEngine.Smsd.AcceptLoop
import CoreEngine.Smsd.Statistics
import CoreEngine.Smsd.WriteReport
import CoreEngine.Memory.Table
import CoreEngine.Smsd.ConfObjects
import CoreEngine.Smsd.LockRefusal
import CoreEngine.Text.Pieces
import CoreEngine.Smsd.BodyLines
import CoreEngine.Smsd.WholeBodies
import CoreEngine.Smsd.CommandList
import CoreEngine.Smsd.LockRetry
import CoreEngine.Memory.Passes
import CoreEngine.Smsd.CursorPasses
import CoreEngine.Text.Fields
import CoreEngine.Smsd.NightlySave
import CoreEngine.Text.Quoted
import CoreEngine.Smsd.ParseParams
import CoreEngine.Smsd.Reconnection
import CoreEngine.Smsd.Listing
import CoreEngine.Text.Spacing
import CoreEngine.Smsd.Splitting
import CoreEngine.Smsd.TwoPaths
import CoreEngine.Smsd.Deadlock
import CoreEngine.Interaction.Coverage
import CoreEngine.Smsd.Jobs
import CoreEngine.Interaction.Workers
import CoreEngine.Smsd.Descriptors
import CoreEngine.Memory.Blocks
import CoreEngine.Smsd.ConfigHeap
import CoreEngine.Smsd.ConfigMemory
import CoreEngine.Smsd.ConfigText
import CoreEngine.Smsd.ConfigRender
import CoreEngine.Text.Sections
import CoreEngine.Interaction.Product
import CoreEngine.Smsd.StatusReport
