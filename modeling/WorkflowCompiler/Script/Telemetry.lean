/-!
The status nodes of a deployable script: every task is wired to some of them.
-/
namespace WorkflowCompiler.Script

def telemetryLines : List String := [
    "",
    "    # Telemetry",
    "    #",
    "    notify_start = StatusPublisherOperator(",
    "        task_id=\"notify_start\",",
    "        dag=dag,",
    "        google_credentials=\"\x7b\x7b var.value.COMPOSER_SERVICE_ACCOUNT_CREDENTIALS_SECRET \x7d\x7d\",",
    "        payload=\x7b\"dag_id\": _dag_name,",
    "                 \"dag_execution_date\": \"\x7b\x7b execution_date \x7d\x7d\",",
    "                 \"dag_run_id\": \"\x7b\x7b run_id \x7d\x7d\",",
    "                 \"dag_type\": _dag_type,",
    "                 \"dag_generator_version\": _dag_generator_version,",
    "                 \"job_id\": _dag_type + \"|\" + _dag_name,",
    "                 \"status\": \"RUNNING\"\x7d",
    "    )",
    "",
    "    initialize = BranchPythonOperator(",
    "        task_id=\"initialize\",",
    "        dag=dag,",
    "        python_callable=initialize",
    "    )",
    "",
    "    notify_after_config = StatusPublisherOperator(",
    "        task_id=\"notify_after_config\",",
    "        dag=dag,",
    "        google_credentials=\"\x7b\x7b var.value.COMPOSER_SERVICE_ACCOUNT_CREDENTIALS_SECRET \x7d\x7d\",",
    "        payload=\x7b\"dag_id\": _dag_name,",
    "                 \"dag_execution_date\": \"\x7b\x7b execution_date \x7d\x7d\",",
    "                 \"dag_run_id\": \"\x7b\x7b run_id \x7d\x7d\",",
    "                 \"dag_type\": _dag_type,",
    "                 \"dag_generator_version\": _dag_generator_version,",
    "                 \"configuration_context\": \x7b\"collection\": \"airflow-com\", \"doc_id\": \"\x7b\x7b task_instance.xcom_pull(key='airflow-com-id') \x7d\x7d\", \"item\": \"configuration_context\"\x7d,",
    "                 \"account\": \"\x7b\x7b task_instance.xcom_pull(key='account') \x7d\x7d\",",
    "                 \"environment\": \"\x7b\x7b task_instance.xcom_pull(key='environment') \x7d\x7d\",",
    "                 \"job_id\": _dag_type + \"|\" + _dag_name,",
    "                 \"status\": \"RUNNING\"\x7d",
    "    )",
    "",
    "    notify_failed = StatusPublisherOperator(",
    "        task_id=\"notify_failed\",",
    "        dag=dag,",
    "        trigger_rule=\"one_failed\",",
    "        google_credentials=\"\x7b\x7b var.value.COMPOSER_SERVICE_ACCOUNT_CREDENTIALS_SECRET \x7d\x7d\",",
    "        payload=\x7b\"dag_id\": _dag_name,",
    "                 \"dag_execution_date\": \"\x7b\x7b execution_date \x7d\x7d\",",
    "                 \"dag_run_id\": \"\x7b\x7b run_id \x7d\x7d\",",
    "                 \"dag_type\": _dag_type,",
    "                 \"dag_generator_version\": _dag_generator_version,",
    "                 \"job_id\": _dag_type + \"|\" + _dag_name,",
    "                 \"status\": \"FAILED\"\x7d",
    "    )",
    "",
    "    notify_success = StatusPublisherOperator(",
    "        task_id=\"notify_success\",",
    "        dag=dag,",
    "        google_credentials=\"\x7b\x7b var.value.COMPOSER_SERVICE_ACCOUNT_CREDENTIALS_SECRET \x7d\x7d\",",
    "        payload=\x7b\"dag_id\": _dag_name,",
    "                 \"dag_execution_date\": \"\x7b\x7b execution_date \x7d\x7d\",",
    "                 \"dag_run_id\": \"\x7b\x7b run_id \x7d\x7d\",",
    "                 \"dag_type\": _dag_type,",
    "                 \"dag_generator_version\": _dag_generator_version,",
    "                 \"configuration_context\": \x7b\"collection\": \"airflow-com\", \"doc_id\": \"\x7b\x7b task_instance.xcom_pull(key='airflow-com-id') \x7d\x7d\", \"item\": \"configuration_context\"\x7d,",
    "                 \"account\": \"\x7b\x7b task_instance.xcom_pull(key='account') \x7d\x7d\",",
    "                 \"environment\": \"\x7b\x7b task_instance.xcom_pull(key='environment') \x7d\x7d\",",
    "                 \"job_id\": _dag_type + \"|\" + _dag_name,",
    "                 \"status\": \"SUCCESS\"\x7d",
    "    )",
    "",
    "    notify_deactivated = StatusPublisherOperator(",
    "        task_id=\"notify_deactivated\",",
    "        dag=dag,",
    "        google_credentials=\"\x7b\x7b var.value.COMPOSER_SERVICE_ACCOUNT_CREDENTIALS_SECRET \x7d\x7d\",",
    "        payload=\x7b\"dag_id\": _dag_name,",
    "                 \"dag_execution_date\": \"\x7b\x7b execution_date \x7d\x7d\",",
    "                 \"dag_run_id\": \"\x7b\x7b run_id \x7d\x7d\",",
    "                 \"dag_type\": _dag_type,",
    "                 \"dag_generator_version\": _dag_generator_version,",
    "                 \"configuration_context\": \x7b\"collection\": \"airflow-com\", \"doc_id\": \"\x7b\x7b task_instance.xcom_pull(key='airflow-com-id') \x7d\x7d\", \"item\": \"configuration_context\"\x7d,",
    "                 \"account\": \"\x7b\x7b task_instance.xcom_pull(key='account') \x7d\x7d\",",
    "                 \"environment\": \"\x7b\x7b task_instance.xcom_pull(key='environment') \x7d\x7d\",",
    "                 \"job_id\": _dag_type + \"|\" + _dag_name,",
    "                 \"status\": \"SUCCESS\"\x7d",
    "    )"]

/-- The part of a deployable script that defines the status nodes. -/
def telemetry : String :=
  String.join (telemetryLines.map (· ++ "\n"))

end WorkflowCompiler.Script
