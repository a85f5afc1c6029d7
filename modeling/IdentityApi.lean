import IdentityApi.Client
import IdentityApi.Codec.Basic
import IdentityApi.Codec.Record
import IdentityApi.CommandLine.Grammar
import IdentityApi.CommandLine.Reader
import IdentityApi.Decimal.Binary64
import IdentityApi.Decimal.Shortest
import IdentityApi.Digest.Sha256
import IdentityApi.Dotenv
import IdentityApi.Endpoint
import IdentityApi.ErrorBody
import IdentityApi.Http
import IdentityApi.Json.Reader
import IdentityApi.Json.Tree
import IdentityApi.Json.Value
import IdentityApi.KeyMap
import IdentityApi.Log.Filter
import IdentityApi.Log.Line
import IdentityApi.Main
import IdentityApi.Operation
import IdentityApi.Operation.Access
import IdentityApi.Operation.Device
import IdentityApi.Operation.Directory
import IdentityApi.Operation.Monitoring
import IdentityApi.PathTemplate
import IdentityApi.Program
import IdentityApi.Proofs.Body
import IdentityApi.Proofs.Cache
import IdentityApi.Proofs.Cache.Fetching
import IdentityApi.Proofs.Cache.Frame
import IdentityApi.Proofs.Cache.Interleaving
import IdentityApi.Proofs.Client.Base
import IdentityApi.Proofs.Client.Calling
import IdentityApi.Proofs.Client.Replies
import IdentityApi.Proofs.Codec.Basic
import IdentityApi.Proofs.Codec.Depth
import IdentityApi.Proofs.Codec.Filling
import IdentityApi.Proofs.Codec.Members
import IdentityApi.Proofs.Codec.Record
import IdentityApi.Proofs.Codec.Shuffling
import IdentityApi.Proofs.Codec.Sorting
import IdentityApi.Proofs.Codec.Strict
import IdentityApi.Proofs.Columns
import IdentityApi.Proofs.Command
import IdentityApi.Proofs.CommandLine.Anywhere
import IdentityApi.Proofs.CommandLine.Inserting
import IdentityApi.Proofs.CommandLine.Levels
import IdentityApi.Proofs.CommandLine.Words
import IdentityApi.Proofs.Config
import IdentityApi.Proofs.DeviceRecord
import IdentityApi.Proofs.DeviceRequest
import IdentityApi.Proofs.Elements
import IdentityApi.Proofs.Endpoint
import IdentityApi.Proofs.ErrorBody.Splitting
import IdentityApi.Proofs.ErrorBody.Summary
import IdentityApi.Proofs.Filter
import IdentityApi.Proofs.History
import IdentityApi.Proofs.Json.Assembly
import IdentityApi.Proofs.Json.Closing
import IdentityApi.Proofs.Json.Double
import IdentityApi.Proofs.Json.Free
import IdentityApi.Proofs.Json.Grammar
import IdentityApi.Proofs.Json.Integer
import IdentityApi.Proofs.Json.Leaves
import IdentityApi.Proofs.Json.Number
import IdentityApi.Proofs.Json.Parts
import IdentityApi.Proofs.Json.Printing
import IdentityApi.Proofs.Json.Reading
import IdentityApi.Proofs.Json.Shuffling
import IdentityApi.Proofs.Json.Spelling
import IdentityApi.Proofs.Json.Text
import IdentityApi.Proofs.Json.Tree
import IdentityApi.Proofs.Json.Writing
import IdentityApi.Proofs.KeyMap
import IdentityApi.Proofs.Operation.Arguments
import IdentityApi.Proofs.Operation.Blanks
import IdentityApi.Proofs.Operation.Building
import IdentityApi.Proofs.Operation.Routing
import IdentityApi.Proofs.Page
import IdentityApi.Proofs.PathTemplate
import IdentityApi.Proofs.PathTemplate.Filling
import IdentityApi.Proofs.PathTemplate.Grammar
import IdentityApi.Proofs.PathTemplate.Segments
import IdentityApi.Proofs.Printing
import IdentityApi.Proofs.Program
import IdentityApi.Proofs.Query
import IdentityApi.Proofs.Query.Reading
import IdentityApi.Proofs.Rearranging
import IdentityApi.Proofs.Reply
import IdentityApi.Proofs.Request.Building
import IdentityApi.Proofs.Request.Contents
import IdentityApi.Proofs.Request.Keys
import IdentityApi.Proofs.Request.Renaming
import IdentityApi.Proofs.Request.Target
import IdentityApi.Proofs.Resource
import IdentityApi.Proofs.Session.Cancelling
import IdentityApi.Proofs.Session.Sending
import IdentityApi.Proofs.Session.Tokens
import IdentityApi.Proofs.Session.Twins
import IdentityApi.Proofs.Text.Basic
import IdentityApi.Proofs.Text.Mending
import IdentityApi.Proofs.Text.Percent
import IdentityApi.Proofs.Text.Utf8
import IdentityApi.Proofs.Timestamp
import IdentityApi.Proofs.Url.Authority
import IdentityApi.Proofs.Url.Host
import IdentityApi.Proofs.Url.Joining
import IdentityApi.Proofs.Url.Making
import IdentityApi.Proofs.Url.Reading
import IdentityApi.Proofs.Url.Regular
import IdentityApi.Proofs.Url.Walking
import IdentityApi.Proofs.Uuid
import IdentityApi.Query
import IdentityApi.Reply
import IdentityApi.Request
import IdentityApi.Resource
import IdentityApi.Resource.Administration
import IdentityApi.Resource.Application
import IdentityApi.Resource.Basic
import IdentityApi.Resource.Device
import IdentityApi.Resource.Event
import IdentityApi.Resource.Flow
import IdentityApi.Resource.Group
import IdentityApi.Resource.Token
import IdentityApi.Resource.User
import IdentityApi.Session.Basic
import IdentityApi.Text.Basic
import IdentityApi.Text.CodeTable
import IdentityApi.Text.Normal.Basic
import IdentityApi.Text.Normal.Table
import IdentityApi.Text.Percent
import IdentityApi.Text.Printable
import IdentityApi.Text.Utf8
import IdentityApi.Timestamp
import IdentityApi.Transport
import IdentityApi.Url.Basic
import IdentityApi.Url.Domain
import IdentityApi.Url.Domain.Direction
import IdentityApi.Url.Domain.Joining
import IdentityApi.Url.Domain.Mapping
import IdentityApi.Url.Host
import IdentityApi.Url.Punycode
import IdentityApi.Url.Reader
import IdentityApi.Uuid
