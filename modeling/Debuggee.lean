import Debuggee.Address
import Debuggee.Binary64
import Debuggee.Bytes
import Debuggee.Config
import Debuggee.ConfigFile
import Debuggee.Debugger.Attach
import Debuggee.Debugger.Basic
import Debuggee.Debugger.Dispatch
import Debuggee.Debugger.Lifecycle
import Debuggee.Debugger.Session
import Debuggee.Discovery
import Debuggee.Draft
import Debuggee.Ids
import Debuggee.Json.Assembly
import Debuggee.Json.Numeral
import Debuggee.Json.Quoted
import Debuggee.Json.Text
import Debuggee.Json.Token
import Debuggee.Json.Value
import Debuggee.Layout.Basic
import Debuggee.Layout.Error
import Debuggee.Layout.Read
import Debuggee.Layout.Write
import Debuggee.LineTable
import Debuggee.Log.Directive
import Debuggee.Log.FieldValue
import Debuggee.Log.Filter
import Debuggee.Log.Level
import Debuggee.Log.Logger
import Debuggee.Log.Pattern.CharacterClass
import Debuggee.Log.Pattern.Escape
import Debuggee.Log.Pattern.Flag
import Debuggee.Log.Pattern.Reader
import Debuggee.NumberMap
import Debuggee.PathMapping
import Debuggee.Proofs.Debugger.Advance
import Debuggee.Proofs.Debugger.Announcement
import Debuggee.Proofs.Debugger.Attachment
import Debuggee.Proofs.Debugger.Configuration
import Debuggee.Proofs.Debugger.Conversation
import Debuggee.Proofs.Debugger.Directory
import Debuggee.Proofs.Debugger.Footprint
import Debuggee.Proofs.Debugger.Handling
import Debuggee.Proofs.Debugger.History
import Debuggee.Proofs.Debugger.Lifecycle
import Debuggee.Proofs.Debugger.Phases
import Debuggee.Proofs.Debugger.Socket
import Debuggee.Proofs.Debugger.Told
import Debuggee.Proofs.Debugger.Turn
import Debuggee.Proofs.Discovery.Listing
import Debuggee.Proofs.Frame.Cut
import Debuggee.Proofs.Frame.Grammar
import Debuggee.Proofs.Frame.Header
import Debuggee.Proofs.Frame.Line
import Debuggee.Proofs.Frame.RoundTrip
import Debuggee.Proofs.Handoff.Tenancy
import Debuggee.Proofs.Json.Render
import Debuggee.Proofs.Json.Sorted
import Debuggee.Proofs.Json.Token
import Debuggee.Proofs.Layout.Alike
import Debuggee.Proofs.Layout.ReadBack
import Debuggee.Proofs.Layout.Reading
import Debuggee.Proofs.Layout.Shows
import Debuggee.Proofs.Layout.Written
import Debuggee.Proofs.LineTable.Dense
import Debuggee.Proofs.LineTable.Order
import Debuggee.Proofs.LineTable.Partition
import Debuggee.Proofs.LineTable.Range
import Debuggee.Proofs.LineTable.Split
import Debuggee.Proofs.LineTable.Word
import Debuggee.Proofs.Log.Order
import Debuggee.Proofs.Log.Settings
import Debuggee.Proofs.Log.Table
import Debuggee.Proofs.PathMapping.RoundTrip
import Debuggee.Proofs.Protocol.Bodies
import Debuggee.Proofs.Registry.Change
import Debuggee.Proofs.Registry.Coherence
import Debuggee.Proofs.Registry.Follow
import Debuggee.Proofs.Registry.History
import Debuggee.Proofs.Registry.Hit
import Debuggee.Proofs.Registry.Lookup
import Debuggee.Proofs.Registry.Order
import Debuggee.Proofs.Registry.Replace
import Debuggee.Proofs.Registry.Replica
import Debuggee.Proofs.Reply.Stream
import Debuggee.Proofs.Request.Reader
import Debuggee.Proofs.Request.RoundTrip
import Debuggee.Proofs.Request.Secrecy
import Debuggee.Proofs.SendQueue.History
import Debuggee.Proofs.SendQueue.Window
import Debuggee.Proofs.Text.Parts
import Debuggee.Proofs.Text.Redaction
import Debuggee.Proofs.Text.Trim
import Debuggee.Proofs.Transport.Linkage
import Debuggee.Protocol.Answers
import Debuggee.Protocol.Arguments
import Debuggee.Protocol.Breakpoint
import Debuggee.Protocol.Events
import Debuggee.Protocol.Frame
import Debuggee.Protocol.Reply
import Debuggee.Protocol.Request
import Debuggee.Protocol.Stack
import Debuggee.Registry
import Debuggee.Session.Connection
import Debuggee.Session.Handoff
import Debuggee.Session.SendQueue
import Debuggee.Session.Transport
import Debuggee.Strategy
import Debuggee.Text.Blank
import Debuggee.Text.Digits
import Debuggee.Text.Letter
import Debuggee.Text.Quoted
import Debuggee.Text.Redaction
import Debuggee.Text.Unprinted
import Debuggee.Toml.Document
import Debuggee.Toml.Quoted
import Debuggee.Toml.Scalar
import Debuggee.Toml.Table
