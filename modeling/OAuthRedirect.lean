import OAuthRedirect.Log.Logger
import OAuthRedirect.Main
import OAuthRedirect.Uri.Query.RoundTrip
import OAuthRedirect.Proofs.Resolver.Course
import OAuthRedirect.Proofs.Uri.Reassembly
import OAuthRedirect.Proofs.AuthorizationRequest.Target
import OAuthRedirect.Proofs.Http.HostHeader
import OAuthRedirect.Proofs.Http.BaseUrl
import OAuthRedirect.Proofs.AuthorizationRequest.Data
import OAuthRedirect.Proofs.RedirectTemplate
import OAuthRedirect.Proofs.Registration.Repository
import OAuthRedirect.Proofs.Resolver.Outcome
import OAuthRedirect.Proofs.AuthorizationRequest.Parameters
import OAuthRedirect.Proofs.Text.Runs
import OAuthRedirect.Proofs.Pairs
import OAuthRedirect.Proofs.Validation
import OAuthRedirect.Proofs.Scopes
import OAuthRedirect.Proofs.Crypto.Letters
import OAuthRedirect.Proofs.Crypto.Transformation
import OAuthRedirect.Proofs.Resolver.ProofKey
import OAuthRedirect.Proofs.Http.Form
import OAuthRedirect.Proofs.Resolver.QueryInfluence
import OAuthRedirect.Proofs.Resolver.Answered
import OAuthRedirect.Proofs.Crypto.KeyLength
import OAuthRedirect.Proofs.Resolver.Occurrences
import OAuthRedirect.Proofs.Log.Likeness
import OAuthRedirect.Proofs.Resolver.LoggedKeys
import OAuthRedirect.Proofs.Crypto.KeyBlock
import OAuthRedirect.Proofs.Resolver.History
import OAuthRedirect.Proofs.Resolver.KeyStream
import OAuthRedirect.Proofs.Application.Secrets
import OAuthRedirect.Proofs.Application.Links
import OAuthRedirect.Proofs.Uri.WithQuery
import OAuthRedirect.Proofs.Resolver.Endpoint
import OAuthRedirect.Proofs.Resolver.EntryPoints
import OAuthRedirect.Proofs.Uri.Front
import OAuthRedirect.Proofs.RedirectTemplate.Scanning
import OAuthRedirect.Proofs.Text.AsciiCase
import OAuthRedirect.Proofs.Uri.AddressCase
import OAuthRedirect.Proofs.Http.CanonicalBase
import OAuthRedirect.Proofs.Resolver.CallbackOrigin
import OAuthRedirect.Proofs.Json.RoundTrip
import OAuthRedirect.Proofs.Uri.QueryPart
import OAuthRedirect.Proofs.Http.Headers
import OAuthRedirect.Proofs.Application.Contract
import OAuthRedirect.Proofs.Http.ContextPath
import OAuthRedirect.Proofs.Resolver.SentScopes
import OAuthRedirect.Proofs.Http.HostCase
import OAuthRedirect.Proofs.Resolver.HostCase
import OAuthRedirect.Proofs.Crypto.CodeVerifier
import OAuthRedirect.Proofs.Registration.Data
import OAuthRedirect.Proofs.Registration.Acceptance
import OAuthRedirect.Proofs.Text.Lines
import OAuthRedirect.Proofs.Log.Lines
import OAuthRedirect.Proofs.Http.UrlLines
import OAuthRedirect.Proofs.Resolver.LogLines
import OAuthRedirect.Proofs.Registration.File
import OAuthRedirect.Proofs.Resolver.CanonicalScopes
import OAuthRedirect.Proofs.Log.Records
import OAuthRedirect.Proofs.Resolver.Records
import OAuthRedirect.Proofs.Crypto.Reading
import OAuthRedirect.Proofs.Log.Hiding
import OAuthRedirect.Proofs.WideString
import OAuthRedirect.Proofs.Resolver.WideOutcome
import OAuthRedirect.Proofs.Resolver.Texts
import OAuthRedirect.Proofs.Resolver.SentTexts
import OAuthRedirect.Proofs.Registration.Fields
