import Questbook.Advice
import Questbook.Book.Basic
import Questbook.Bookshelf
import Questbook.Catalog
import Questbook.Character.Basic
import Questbook.Cli.Run
import Questbook.Combat.Round
import Questbook.Draft
import Questbook.Engine
import Questbook.Game.Sitting
import Questbook.GameState
import Questbook.Main
import Questbook.NameMap
import Questbook.NameMap.Operation
import Questbook.Proofs.Advice
import Questbook.Proofs.Advice.Due
import Questbook.Proofs.Advice.Loaded
import Questbook.Proofs.Book
import Questbook.Proofs.Book.Loading
import Questbook.Proofs.Book.Rereading
import Questbook.Proofs.Catalog
import Questbook.Proofs.Catalog.Lookup
import Questbook.Proofs.Catalog.Reading
import Questbook.Proofs.Cli.Playthrough
import Questbook.Proofs.Combat.Bands
import Questbook.Proofs.Combat.Coverage
import Questbook.Proofs.Combat.Lookup
import Questbook.Proofs.Combat.Reading
import Questbook.Proofs.Combat.Round
import Questbook.Proofs.Files
import Questbook.Proofs.Game.Availability
import Questbook.Proofs.Game.Failure
import Questbook.Proofs.Game.Fighting
import Questbook.Proofs.Game.Flow
import Questbook.Proofs.Game.Opening
import Questbook.Proofs.Game.Owner
import Questbook.Proofs.Game.Picking
import Questbook.Proofs.Game.Reached
import Questbook.Proofs.Game.Replay
import Questbook.Proofs.Game.Run
import Questbook.Proofs.Game.Serving
import Questbook.Proofs.Game.Taking
import Questbook.Proofs.Game.Unhindered
import Questbook.Proofs.Game.Views
import Questbook.Proofs.GameState
import Questbook.Proofs.Json.Entries
import Questbook.Proofs.Json.Equality
import Questbook.Proofs.Json.LongNumeral
import Questbook.Proofs.Json.Number
import Questbook.Proofs.Json.Parts
import Questbook.Proofs.Json.RoundTrip
import Questbook.Proofs.Json.Stopped
import Questbook.Proofs.Json.Storable
import Questbook.Proofs.Json.Text
import Questbook.Proofs.NameMap.Equality
import Questbook.Proofs.NameMap.Operation
import Questbook.Proofs.NameMap.Same
import Questbook.Proofs.RespelledDocuments
import Questbook.Proofs.Roll.Listing
import Questbook.Proofs.Roll.Selected
import Questbook.Proofs.SaveSlots
import Questbook.Proofs.SaveSlots.Call
import Questbook.Proofs.SaveSlots.Inside
import Questbook.Proofs.SaveSlots.Loading
import Questbook.Proofs.SavedGames
import Questbook.Proofs.Series.Cache
import Questbook.Proofs.Series.Loading
import Questbook.Proofs.Series.Lookup
import Questbook.Proofs.Token.Acceptance
import Questbook.Proofs.Token.Additions
import Questbook.Proofs.Token.Carrying
import Questbook.Proofs.Token.Casing
import Questbook.Proofs.Token.Conditions
import Questbook.Proofs.Token.Digits
import Questbook.Proofs.Token.Effects
import Questbook.Proofs.Token.Gains
import Questbook.Proofs.Token.Grammar
import Questbook.Proofs.Token.Grants
import Questbook.Proofs.Token.RoundTrip
import Questbook.Proofs.Token.Slots
import Questbook.Proofs.Token.Stats
import Questbook.Proofs.Token.Stumbling
import Questbook.Proofs.Token.Thresholds
import Questbook.Proofs.Token.Undecided
import Questbook.Request
import Questbook.Roll.Outcomes
import Questbook.SaveSlots
import Questbook.SaveSlots.Call
import Questbook.Series.Profile
import Questbook.Token.Dispatch
import Questbook.Token.Writer
