import Chronicle.Clock
import Chronicle.CommandLine.Arguments
import Chronicle.CommandLine.Flag
import Chronicle.CommandLine.Generate
import Chronicle.CommandLine.Inspect
import Chronicle.CommandLine.Settings
import Chronicle.Cursor
import Chronicle.Draw
import Chronicle.Duration
import Chronicle.Fault
import Chronicle.Generator.Caller
import Chronicle.Generator.Config
import Chronicle.Generator.Report
import Chronicle.Generator.Schedule
import Chronicle.Generator.Script
import Chronicle.Generator.State
import Chronicle.Generator.World
import Chronicle.Json.Identifier
import Chronicle.Json.Number
import Chronicle.Json.Paging
import Chronicle.Json.Record
import Chronicle.Json.Token
import Chronicle.Json.Value
import Chronicle.Lease
import Chronicle.Main
import Chronicle.Page.Basic
import Chronicle.Page.Memory
import Chronicle.Page.Query
import Chronicle.Page.Records
import Chronicle.Page.Walk
import Chronicle.Post
import Chronicle.Proofs.CommandLine.Inspect
import Chronicle.Proofs.Generator.Alone
import Chronicle.Proofs.Generator.Answer
import Chronicle.Proofs.Generator.Fleet
import Chronicle.Proofs.Generator.Gate
import Chronicle.Proofs.Generator.LeaseLength
import Chronicle.Proofs.Generator.Reached
import Chronicle.Proofs.Generator.State
import Chronicle.Proofs.Generator.Step
import Chronicle.Proofs.Generator.Stream
import Chronicle.Proofs.Generator.Traffic
import Chronicle.Proofs.Generator.Visit
import Chronicle.Proofs.Json.Identifier
import Chronicle.Proofs.Page.Calls
import Chronicle.Proofs.Page.Damage
import Chronicle.Proofs.Page.Feed
import Chronicle.Proofs.Page.Records
import Chronicle.Proofs.Page.Return
import Chronicle.Proofs.Page.Rows
import Chronicle.Proofs.Page.Walk
import Chronicle.Proofs.Store.Bytes
import Chronicle.Proofs.Store.OrderedMap
import Chronicle.Proofs.Uid.Buffer
import Chronicle.Proofs.Uid.Canonical
import Chronicle.Proofs.Uid.Decimal
import Chronicle.Proofs.Uid.Display
import Chronicle.Proofs.Uid.Fields
import Chronicle.Proofs.Uid.Forms
import Chronicle.Proofs.Uid.Packing
import Chronicle.Proofs.Worker.Cohort
import Chronicle.Store.Bytes
import Chronicle.Store.Database
import Chronicle.Store.Dump
import Chronicle.Store.OrderedMap
import Chronicle.Text.Blank
import Chronicle.Text.Decimal
import Chronicle.Text.Hexadecimal
import Chronicle.Text.Quoted
import Chronicle.Text.Record
import Chronicle.Text.Unprintable
import Chronicle.Uid.Basic
import Chronicle.Uid.Digits
import Chronicle.Uid.Display
import Chronicle.Uid.Parse
import Chronicle.Word
import Chronicle.Worker.Cohort
import Chronicle.Worker.Counter
