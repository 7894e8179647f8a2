import MathTokens.Event.Journal
import MathTokens.Limits.Build
import MathTokens.Main
import MathTokens.Token.Decoding
import MathTokens.Proofs.Literals
import MathTokens.Proofs.Numerals
import MathTokens.Proofs.Spelling
import MathTokens.Proofs.Matching
import MathTokens.Proofs.Grammar
import MathTokens.Proofs.Lookahead
import MathTokens.Proofs.Lines
import MathTokens.Proofs.Rendering
import MathTokens.Proofs.Pulling
import MathTokens.Proofs.LineTable
import MathTokens.Proofs.Cursor
import MathTokens.Proofs.Outcomes
import MathTokens.Proofs.ByteScans
import MathTokens.Proofs.Normalising
import MathTokens.Proofs.Walking
import MathTokens.Proofs.Replay
import MathTokens.Proofs.Summary
import MathTokens.Proofs.Excerpt
import MathTokens.Proofs.Diagnostics
import MathTokens.Proofs.QuoteScans
import MathTokens.Proofs.Retention
import MathTokens.Event.Service
import MathTokens.Proofs.Independence
import MathTokens.Proofs.Chronicle
import MathTokens.Proofs.Escapes
import MathTokens.Proofs.TokenLimit
import MathTokens.Proofs.Whereabouts
import MathTokens.Proofs.EmptyProgram
import MathTokens.Proofs.Rows
import MathTokens.Proofs.ReadingOrder
import MathTokens.Proofs.NearestNumber
import MathTokens.Proofs.Listings
import MathTokens.Proofs.Arguments
import MathTokens.Proofs.Admission
import MathTokens.Proofs.StartLimits
import MathTokens.Proofs.Completion
import MathTokens.Proofs.Truncation
import MathTokens.Proofs.JsonReading
import MathTokens.Proofs.TokenJson
import MathTokens.Proofs.StructuredLines
import MathTokens.Proofs.Preferences
import MathTokens.Proofs.TableSearch
import MathTokens.Proofs.Hull
