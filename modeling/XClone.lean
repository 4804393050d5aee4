import XClone.Snowflake.Fleet
import XClone.AccessToken.Issuer
import XClone.AccessToken.Verifier
import XClone.AccessToken.Agreement
import XClone.AccessToken.Genuine
import XClone.Js.ReferenceNode
import XClone.Identity.Domain
import XClone.Lib.Interleaving
import XClone.Lib.Table
import XClone.Identity.SessionStore
import XClone.Identity.UseCases
import XClone.Identity.System
import XClone.Identity.RefreshRotation
import XClone.Identity.Scheduler
import XClone.Identity.TokenChain
import XClone.Identity.Transactions
import XClone.Gateway.ProblemDetails
import XClone.Identity.Evidence
import XClone.Gateway.RefreshRetry
import XClone.Gateway.RetrySafety
import XClone.Gateway.AccessTokenGuard
import XClone.Gateway.Controllers
import XClone.Gateway.OwnProfile
import XClone.Identity.Executions
import XClone.Identity.SessionTerms
import XClone.Gateway.SessionLifetime
import XClone.Identity.Isolation
import XClone.Identity.ProfileHistory
import XClone.Gateway.PatchSemantics
import XClone.Identity.NormalForm
import XClone.Identity.Reasons
import XClone.Identity.Registration
import XClone.Identity.LoginCorrect
import XClone.Gateway.FailedLogin
import XClone.Gateway.RejectedRefresh
import XClone.Gateway.FailureReport
import XClone.Lib.Ownership
import XClone.Identity.Migrations
import XClone.Lib.Alone
import XClone.Identity.MigrationRuns
import XClone.Identity.MigrationSafety
import XClone.Gateway.PublishedDeadline
import XClone.AccessToken.Expiry
import XClone.Gateway.LoginAnswers
import XClone.Identity.CreateUser
import XClone.Identity.AllOrNothing
import XClone.Gateway.GuardedRequest
import XClone.Identity.RefreshTokenMigration
import XClone.Identity.ProfileText
import XClone.Gateway.ServerErrors
import XClone.Snowflake.Termination
import XClone.Identity.RefreshTokenFactory
import XClone.Identity.DrawnIds
import XClone.Lib.Linearization
import XClone.Identity.Ledger
import XClone.Identity.OperationPoints
import XClone.Identity.Linearizable
import XClone.Js.IsoDate
import XClone.Gateway.Answers
import XClone.Gateway.Service
import XClone.Gateway.Contract
import XClone.Gateway.PublicApi
import XClone.Snowflake.Instances
import XClone.Lib.Statements
import XClone.Identity.StatementLevel
import XClone.Gateway.RevokedAccess
import XClone.Identity.CarriedSessions
